import ConfigFacts.Double.Numeral

/-!
# JSON values

A value is the tree of a JSON document. Its leaves stay as they are written: a string is the text
between its quotes, escapes included, and a number is a numeral. What a leaf means is found out
when it is read, so a part of a document that nobody asks for need not mean anything.
-/

namespace ConfigFacts

/-- The text between the quotes of a JSON string. -/
structure Quoted where
  /-- The characters as they are written. -/
  characters : List Char
  deriving DecidableEq, Inhabited

/-- The tree of a JSON document. -/
inductive Json where
  /-- The literal `null`. -/
  | null
  /-- The literals `true` and `false`. -/
  | bool (value : Bool)
  /-- A number as it is written. -/
  | number (numeral : Numeral)
  /-- A string as it is written. -/
  | string (text : Quoted)
  /-- The elements of an array. -/
  | array (elements : List Json)
  /-- The members of an object, in the order of the document. -/
  | object (members : List (Quoted × Json))
  deriving Inhabited

end ConfigFacts
