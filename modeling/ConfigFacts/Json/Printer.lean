import ConfigFacts.Json.Quoted

/-!
# Writing JSON documents

The compact form has no blanks. The indented form puts every element and member on a line of its
own, two blanks deeper than its container, and writes empty containers as `[]` and `{}`. Both write
numbers with the mark `e`, and with a sign on every power of ten.
-/

namespace ConfigFacts.Json

/-- A written string with its quotes. -/
def quotedCharacters (q : Quoted) : List Char :=
  '"' :: (q.characters ++ ['"'])

/-- A number as JSON writes it. -/
def numeralCharacters (n : Numeral) : List Char :=
  n.characters 'e' true

mutual

/-- The compact form of a value. -/
def compact : Json → List Char
  | .null => "null".toList
  | .bool true => "true".toList
  | .bool false => "false".toList
  | .number n => numeralCharacters n
  | .string q => quotedCharacters q
  | .array elements => '[' :: (compactElements elements ++ [']'])
  | .object members => '\x7b' :: (compactMembers members ++ ['\x7d'])

/-- Elements between commas. -/
def compactElements : List Json → List Char
  | [] => []
  | [value] => compact value
  | value :: rest => compact value ++ ',' :: compactElements rest

/-- Members between commas. -/
def compactMembers : List (Quoted × Json) → List Char
  | [] => []
  | [(name, value)] => quotedCharacters name ++ ':' :: compact value
  | (name, value) :: rest =>
    quotedCharacters name ++ ':' :: (compact value ++ ',' :: compactMembers rest)

end

/-- A line feed and the blanks of a depth. -/
def newLine (depth : Nat) : List Char :=
  '\n' :: List.replicate (2 * depth) ' '

mutual

/-- The indented form of a value that stands at a depth. -/
def indented (depth : Nat) : Json → List Char
  | .null => "null".toList
  | .bool true => "true".toList
  | .bool false => "false".toList
  | .number n => numeralCharacters n
  | .string q => quotedCharacters q
  | .array [] => ['[', ']']
  | .array (value :: rest) =>
    '[' :: (indentedElements (depth + 1) (value :: rest) ++ (newLine depth ++ [']']))
  | .object [] => ['\x7b', '\x7d']
  | .object (entry :: rest) =>
    '\x7b' :: (indentedMembers (depth + 1) (entry :: rest) ++ (newLine depth ++ ['\x7d']))

/-- Elements on lines of their own. -/
def indentedElements (depth : Nat) : List Json → List Char
  | [] => []
  | [value] => newLine depth ++ indented depth value
  | value :: rest => newLine depth ++ (indented depth value ++ ',' :: indentedElements depth rest)

/-- Members on lines of their own. -/
def indentedMembers (depth : Nat) : List (Quoted × Json) → List Char
  | [] => []
  | [(name, value)] =>
    newLine depth ++ (quotedCharacters name ++ ':' :: ' ' :: indented depth value)
  | (name, value) :: rest =>
    newLine depth ++ (quotedCharacters name ++ ':' :: ' ' :: (indented depth value
      ++ ',' :: indentedMembers depth rest))

end

/-- The compact document of a value. -/
def text (value : Json) : String :=
  String.ofList value.compact

/-- The indented document of a value. -/
def indentedText (value : Json) : String :=
  String.ofList (value.indented 0)

end ConfigFacts.Json
