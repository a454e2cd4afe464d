import ConfigFacts.Bins
import ConfigFacts.Extraction.Basic

/-!
# Ledgers

A ledger is what has been written about devices so far: the bins and the warnings. A program that
writes into a ledger puts each fact into its bin at the moment at which it is found. A failure ends
the program, and what was written before stays in the ledger.
-/

namespace ConfigFacts

/-- What has been written so far. -/
structure Ledger where
  /-- The bins. -/
  bins : Bins
  /-- The warnings, in the order in which they were raised. -/
  warnings : List Warning
  deriving DecidableEq

/-- The ledger in which nothing is written. -/
def Ledger.empty : Ledger :=
  ⟨.empty, []⟩

/-- A program that writes into a ledger and may end with a failure. -/
abbrev Writing : Type → Type :=
  ExceptT Failure (StateM Ledger)

namespace Writing

/-- Writes a fact behind the others of its kind. -/
def put (f : Fact) : Writing Unit :=
  modify fun l => { l with bins := l.bins.push f }

/-- Raises a warning. -/
def warn (w : Warning) : Writing Unit :=
  modify fun l => { l with warnings := l.warnings ++ [w] }

/-- Ends with a failure. -/
def fail (f : Failure) : Writing Unit :=
  throw f

/-- Writes only under a condition. -/
def when (condition : Bool) (w : Writing Unit) : Writing Unit :=
  if condition then w else pure ()

/-- Writes about the elements of a list with their positions. -/
def eachIndexed {α : Type} (as : List α) (write : Nat → α → Writing Unit) : Writing Unit :=
  as.zipIdx.forM fun (a, i) => write i a

/-- The outcome of a program on a ledger, and the ledger afterwards. -/
def perform {α : Type} (w : Writing α) (l : Ledger) : Except Failure α × Ledger :=
  w.run.run l

end Writing

end ConfigFacts
