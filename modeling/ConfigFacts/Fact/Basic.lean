import ConfigFacts.AccessList
import ConfigFacts.Community
import ConfigFacts.Double.Numeral
import ConfigFacts.Fact.Kind

/-!
# Facts

A fact is a tuple of a relation. On the wire it is one line, its fields between bars.
-/

namespace ConfigFacts

/-- The name of a structure of a device, unique in the network. -/
structure QualifiedName where
  /-- The device that owns the structure. -/
  hostname : String
  /-- The name of the structure in the device. -/
  localName : String
  deriving DecidableEq, Inhabited

instance : ToString QualifiedName :=
  ⟨fun q => q.hostname ++ ":" ++ q.localName⟩

/-- A field of a fact. -/
inductive Field where
  /-- A text. -/
  | text (s : String)
  /-- A natural number. -/
  | number (n : Nat)
  /-- The name of a structure. -/
  | name (q : QualifiedName)
  /-- A double. -/
  | double (x : Double)
  deriving DecidableEq, Inhabited

/-- How doubles are written in facts. -/
def factNotation : Notation where
  plainFrom := -3
  plainBelow := 7
  padded := true
  mark := 'E'
  plus := false
  tie := .up

/-- The text of a double in a fact. -/
def Double.factText (x : Double) : String :=
  if x.isNaN then "NaN"
  else if x.isInfinite then if x.negative then "-Infinity" else "Infinity"
  else String.ofList (factNotation.characters x)

namespace Field

/-- The text of a field. -/
def render : Field → String
  | .text s => s
  | .number n => toString n
  | .name q => toString q
  | .double x => x.factText

instance : Coe String Field :=
  ⟨text⟩

instance : Coe Nat Field :=
  ⟨number⟩

instance : Coe UInt8 Field :=
  ⟨fun n => number n.toNat⟩

instance : Coe UInt32 Field :=
  ⟨fun n => number n.toNat⟩

instance : Coe UInt64 Field :=
  ⟨fun n => number n.toNat⟩

instance : Coe Address Field :=
  ⟨fun a => number a.toNat⟩

instance : Coe Community Field :=
  ⟨fun c => number c.value.toNat⟩

instance : Coe QualifiedName Field :=
  ⟨name⟩

instance : Coe Double Field :=
  ⟨double⟩

end Field

/-- A fact. -/
structure Fact where
  /-- The relation. -/
  kind : FactKind
  /-- The tuple. -/
  fields : List Field
  deriving DecidableEq, Inhabited

/-- The line of a fact, without its end. -/
def Fact.line (f : Fact) : String :=
  "|".intercalate (f.fields.map Field.render)

end ConfigFacts
