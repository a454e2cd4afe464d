import ConfigFacts.Family.Basic

/-!
# Sessions

Bins can be shared: one extractor after the other writes into them. A session is the time in which
one extractor uses the bins. It may write the facts of its device several times, and goes on after a
failure; its warnings are its own.
-/

namespace ConfigFacts

/-- Performs a program a number of times on one ledger, whatever the outcomes. -/
def Writing.repeatedly (w : Writing Unit) : Nat → Ledger → List (Except Failure Unit) × Ledger
  | 0, l => ([], l)
  | n + 1, l =>
    let (outcome, l) := w.perform l
    let (outcomes, l) := w.repeatedly n l
    (outcome :: outcomes, l)

/-- The use of some bins by one extractor. -/
structure Session where
  /-- The device of the extractor. -/
  device : Device
  /-- The communities of the network. -/
  communities : CommunitySet
  /-- How often the extractor writes all facts. -/
  calls : Nat

/-- What an extractor holds at the end of its session. -/
structure SessionReport where
  /-- The outcomes of its calls. -/
  outcomes : List (Except Failure Unit)
  /-- Its warnings. -/
  warnings : List Warning

namespace Session

/-- A session on some bins, and the bins afterwards. -/
def run (s : Session) (b : Bins) : SessionReport × Bins :=
  let (outcomes, l) := (s.device.write s.communities).repeatedly s.calls ⟨b, []⟩
  (⟨outcomes, l.warnings⟩, l.bins)

/-- Sessions on the same bins, one after the other, and the bins afterwards. -/
def runAll : List Session → Bins → List SessionReport × Bins
  | [], b => ([], b)
  | s :: rest, b =>
    let (report, b) := s.run b
    let (reports, b) := runAll rest b
    (report :: reports, b)

end Session

end ConfigFacts
