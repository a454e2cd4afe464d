import ConfigFacts.Fact.Basic
import ConfigFacts.Text.Lines

/-!
# Bins

The bins hold the text of all facts found so far, one text for each kind of facts. A bin only ever
grows at its end, by whole lines.
-/

namespace ConfigFacts

/-- A text for each kind of facts. -/
structure Bins where
  /-- The texts, in the order of the kinds. -/
  texts : Vector String FactKind.count
  deriving DecidableEq

namespace Bins

/-- The bins without facts. -/
def empty : Bins :=
  ⟨.replicate FactKind.count ""⟩

instance : Inhabited Bins :=
  ⟨empty⟩

/-- The text of a kind. -/
def get (b : Bins) (k : FactKind) : String :=
  b.texts.get ⟨k.index, k.index_lt_count⟩

/-- The text of the kind with a name. -/
def getByName? (b : Bins) (name : String) : Option String :=
  (FactKind.ofName? name).map b.get

/-- Writes a line behind the text of a kind. -/
def pushLine (b : Bins) (k : FactKind) (line : String) : Bins :=
  ⟨b.texts.set k.index (b.get k ++ (line ++ "\n")) k.index_lt_count⟩

/-- Writes a fact. -/
def push (b : Bins) (f : Fact) : Bins :=
  b.pushLine f.kind f.line

/-- Writes facts one after the other. -/
def pushAll (b : Bins) (fs : List Fact) : Bins :=
  fs.foldl push b

/-- The bins of some facts alone. -/
def ofFacts (fs : List Fact) : Bins :=
  empty.pushAll fs

/-- Writes the texts of other bins behind the own ones. -/
def append (a b : Bins) : Bins :=
  ⟨a.texts.zipWith (· ++ ·) b.texts⟩

instance : Append Bins :=
  ⟨append⟩

/-- The lines of a kind. -/
def lines (b : Bins) (k : FactKind) : List String :=
  (Text.lines (b.get k).toList).map String.ofList

/-- Whether no fact was written. -/
def isEmpty (b : Bins) : Bool :=
  FactKind.all.all fun k => (b.get k).isEmpty

/-- The names of all kinds with their texts, in the order of the names. -/
def entries (b : Bins) : List (String × String) :=
  FactKind.byName.map fun k => (k.name, b.get k)

end Bins

end ConfigFacts
