import ConfigFacts.Double.Reading
import ConfigFacts.Json.Printer
import ConfigFacts.Json.Reader
import ConfigFacts.SortedMap

/-!
# JSON forms

A type with a JSON form can be written as a JSON value and read back from one. Reading is told how
many containers may still be opened inside each other, its *room*.

* A record is an object whose members may come in any order, unknown ones included, or an array of
  its fields in order, of which the last ones may be missing.
* A name out of a list is a string, or an object with that one name whose value is empty.
* A variant is an object with one member, its name and its payload.
* A tagged record says in one field, its tag, which record it is. It is held as a whole before the
  tag is known, so all of it has to be readable: no half of a surrogate pair, no number that
  overflows, no more depth than there is room.
-/

namespace ConfigFacts

/-- Types with a JSON form. -/
class Form (α : Type) where
  /-- The value that is written. -/
  toJson : α → Json
  /-- What a value is read as, with room for so many nested containers. -/
  ofJson? : (room : Nat) → Json → Option α

export Form (toJson)

namespace Json

/-- The number of containers that a document may open inside each other, as far as they are read. -/
def depthLimit : Nat := 127

/-- What a document is read as. -/
def read? (α : Type) [Form α] (document : String) : Option α := do
  Form.ofJson? depthLimit (← parse? document)

/-- The value of a text. -/
def ofString (s : String) : Json :=
  .string (.ofString s)

/-- The value of a natural number. -/
def ofNat (n : Nat) : Json :=
  .number (.ofNat n)

/-- An object with the given members. -/
def record (members : List (String × Json)) : Json :=
  .object (members.map fun (name, value) => (.ofString name, value))

/-- The natural number that a value is, if it is below a bound. -/
def natural? (bound : Nat) : Json → Option Nat
  | .number n => n.natural?.filter (· < bound)
  | _ => none

/-- How doubles are written in JSON. -/
def doubleNotation : Notation where
  plainFrom := -5
  plainBelow := 16
  padded := false
  mark := 'e'
  plus := true
  tie := .even

/-- The value of a double; one that is not finite has none. -/
def ofDouble (x : Double) : Json :=
  if x.isFinite then .number (doubleNotation.numeral x) else .null

/-- The members of an object with their names read. -/
def namedMembers? (members : List (Quoted × Json)) : Option (List (String × Json)) :=
  members.mapM fun (name, value) => name.text?.map (·, value)

/-- The fields of a record that are present, and the room inside it. -/
structure Fields where
  /-- The fields under their names. -/
  entries : List (String × Json)
  /-- The room for containers inside the record. -/
  room : Nat

/-- The fields of a record with the given field names: none of them twice in an object, and not
more elements than fields in an array. -/
def fields? (names : List String) (room : Nat) (value : Json) : Option Fields :=
  match room, value with
  | room + 1, .object members => do
    let known := (← namedMembers? members).filter fun (name, _) => names.contains name
    if (known.map Prod.fst).Nodup then some ⟨known, room⟩ else none
  | room + 1, .array elements =>
    if elements.length ≤ names.length then some ⟨names.zip elements, room⟩ else none
  | _, _ => none

/-- A field that has to be present. -/
def Fields.required {α : Type} [Form α] (fields : Fields) (name : String) : Option α := do
  Form.ofJson? fields.room (← fields.entries.lookup name)

/-- A field that takes a default when it is missing. -/
def Fields.defaulted {α : Type} [Form α] (fields : Fields) (name : String) (default : α) :
    Option α :=
  match fields.entries.lookup name with
  | some value => Form.ofJson? fields.room value
  | none => some default

/-- The name and the payload of a variant. -/
def variant? : Json → Option (String × Json)
  | .object [(name, payload)] => name.text?.map (·, payload)
  | _ => none

mutual

/-- Whether all of a value can be read, with room for so many nested containers. -/
def isPlain (room : Nat) : Json → Bool
  | .null => true
  | .bool _ => true
  | .number n => (Double.ofNumeral? n).isSome
  | .string q => q.text?.isSome
  | .array elements => room ≠ 0 && arePlain (room - 1) elements
  | .object members => room ≠ 0 && arePlainMembers (room - 1) members

/-- Whether all of some elements can be read. -/
def arePlain (room : Nat) : List Json → Bool
  | [] => true
  | value :: rest => isPlain room value && arePlain room rest

/-- Whether all of some members can be read. -/
def arePlainMembers (room : Nat) : List (Quoted × Json) → Bool
  | [] => true
  | (name, value) :: rest => name.text?.isSome && isPlain room value && arePlainMembers room rest

end

/-- The tag of a tagged record and the record without it. The tag is the only member with its
name, or the first element of an array. -/
def tagged? (tag : String) (room : Nat) (value : Json) : Option (String × Json) :=
  if value.isPlain room then
    match value with
    | .object members =>
      match members.partition fun (name, _) => name.text? = some tag with
      | ([(_, .string q)], rest) => q.text?.map (·, .object rest)
      | _ => none
    | .array (.string q :: rest) => q.text?.map (·, .array rest)
    | _ => none
  else none

end Json

/-- A finite list of names, and what any other name stands for. -/
structure Vocabulary (α : Type) where
  /-- The names with their meanings. -/
  names : List (String × α)
  /-- The meaning of every other name, if it has one. -/
  other : Option α := none

namespace Vocabulary

variable {α : Type}

/-- The meaning of a name. -/
def meaning? (v : Vocabulary α) (name : String) : Option α :=
  (v.names.lookup name).or v.other

/-- A name written as a string, or as the only member of an object with a payload that counts as
empty. -/
def readWith (isEmpty : Json → Bool) (v : Vocabulary α) : Json → Option α
  | .string q => q.text?.bind v.meaning?
  | .object [(name, payload)] => if isEmpty payload then name.text?.bind v.meaning? else none
  | _ => none

/-- In a document the empty payload is `null`. -/
def ofJson? (v : Vocabulary α) (value : Json) : Option α :=
  v.readWith (fun | .null => true | _ => false) value

/-- Inside a tagged record an object without members counts as an empty payload too. -/
def ofTagged? (v : Vocabulary α) (fields : Json.Fields) (name : String) : Option α := do
  v.readWith (fun | .null => true | .object [] => true | _ => false) (← fields.entries.lookup name)

end Vocabulary

instance : Form String where
  toJson := Json.ofString
  ofJson?
    | _, .string q => q.text?
    | _, _ => none

instance : Form Bool where
  toJson := .bool
  ofJson?
    | _, .bool b => some b
    | _, _ => none

instance : Form UInt8 where
  toJson n := .ofNat n.toNat
  ofJson? _ value := (value.natural? UInt8.size).map .ofNat

instance : Form UInt32 where
  toJson n := .ofNat n.toNat
  ofJson? _ value := (value.natural? UInt32.size).map .ofNat

instance : Form Double where
  toJson := Json.ofDouble
  ofJson?
    | _, .number n => Double.ofNumeral? n
    | _, _ => none

instance {α : Type} [Form α] : Form (Option α) where
  toJson
    | some a => toJson a
    | none => .null
  ofJson?
    | _, .null => some none
    | room, value => (Form.ofJson? room value).map some

instance {α : Type} [Form α] : Form (List α) where
  toJson as := .array (as.map toJson)
  ofJson?
    | room + 1, .array elements => elements.mapM (Form.ofJson? room)
    | _, _ => none

instance {α : Type} [Form α] : Form (SortedMap String α) where
  toJson m := .record (m.entries.map fun (name, a) => (name, toJson a))
  ofJson?
    | room + 1, .object members => do
      let entries ← members.mapM fun (name, value) =>
        return (← name.text?, ← Form.ofJson? room value)
      return .ofList entries
    | _, _ => none

/-- The number that a member name is written as: a whole number of JSON below `2 ^ 64`. -/
def Quoted.number? (q : Quoted) : Option UInt64 :=
  match Json.readWhole q.characters with
  | some (n, []) => if n < UInt64.size then some (.ofNat n) else none
  | _ => none

instance {α : Type} [Form α] : Form (SortedMap UInt64 α) where
  toJson m := .record (m.entries.map fun (n, a) => (toString n.toNat, toJson a))
  ofJson?
    | room + 1, .object members => do
      let entries ← members.mapM fun (name, value) =>
        return (← name.number?, ← Form.ofJson? room value)
      return .ofList entries
    | _, _ => none

end ConfigFacts
