import ConfigFacts.Json.Quoted

/-!
# Reading JSON documents

`Json.parse?` accepts the documents of RFC 8259 and nothing else: no comments, no commas at the
end, no leading zeros, no raw control characters in strings, and nothing but blanks around the
value. Blanks are the space, the tab, the line feed and the carriage return.
-/

namespace ConfigFacts.Json

/-- The blanks between the tokens of a document. -/
def isSpace (c : Char) : Bool :=
  c = ' ' || c = '\t' || c = '\n' || c = '\r'

/-- The text from its first token on. -/
def skipSpace (s : List Char) : List Char :=
  s.dropWhile isSpace

/-- The written characters of a string up to its closing quote, and what follows the quote.
`found` holds the characters already passed, in reverse. -/
def readQuoted (found : List Char) : List Char → Option (Quoted × List Char)
  | '"' :: rest => some (⟨found.reverse⟩, rest)
  | '\\' :: 'u' :: a :: b :: c :: d :: rest =>
    if (Quoted.unit? a b c d).isSome then readQuoted (d :: c :: b :: a :: 'u' :: '\\' :: found) rest
    else none
  | '\\' :: c :: rest =>
    if (Quoted.escaped? c).isSome then readQuoted (c :: '\\' :: found) rest else none
  | c :: rest => if c = '\\' ∨ c.toNat < 0x20 then none else readQuoted (c :: found) rest
  | [] => none

/-- The whole part of a number: a zero alone, or digits that do not start with a zero. -/
def readWhole (s : List Char) : Option (Nat × List Char) :=
  match Text.spanDigits s with
  | (['0'], rest) => some (0, rest)
  | ('0' :: _, _) => none
  | ([], _) => none
  | (digits, rest) => some (Nat.ofDigitChars 10 digits 0, rest)

/-- The digits after a point, if there is a point. -/
def readFraction (s : List Char) : Option (List Char × List Char) :=
  match s with
  | '.' :: rest =>
    match Text.spanDigits rest with
    | ([], _) => none
    | (digits, rest) => some (digits, rest)
  | _ => some ([], s)

/-- The power of ten after its mark and sign. -/
def readPower (negative : Bool) (s : List Char) : Option (Option Int × List Char) :=
  match Text.spanDigits s with
  | ([], _) => none
  | (digits, rest) =>
    let size := Nat.ofDigitChars 10 digits 0
    some (some (if negative then -(size : Int) else size), rest)

/-- The power of ten, if there is one. -/
def readExponent (s : List Char) : Option (Option Int × List Char) :=
  match s with
  | c :: rest =>
    if c = 'e' ∨ c = 'E' then
      match rest with
      | '+' :: digits => readPower false digits
      | '-' :: digits => readPower true digits
      | digits => readPower false digits
    else some (none, s)
  | [] => some (none, [])

/-- A number and what follows it. -/
def readNumeral (s : List Char) : Option (Numeral × List Char) := do
  let (negative, s) := match s with
    | '-' :: rest => (true, rest)
    | _ => (false, s)
  let (whole, s) ← readWhole s
  let (fraction, s) ← readFraction s
  let (exponent, s) ← readExponent s
  return (⟨negative, whole, fraction, exponent⟩, s)

mutual

/-- The value that a text starts with, and what follows it. -/
def readValue (fuel : Nat) (s : List Char) : Option (Json × List Char) :=
  match fuel with
  | 0 => none
  | fuel + 1 =>
    match skipSpace s with
    | 'n' :: 'u' :: 'l' :: 'l' :: rest => some (.null, rest)
    | 't' :: 'r' :: 'u' :: 'e' :: rest => some (.bool true, rest)
    | 'f' :: 'a' :: 'l' :: 's' :: 'e' :: rest => some (.bool false, rest)
    | '"' :: rest => (readQuoted [] rest).map fun (text, rest) => (.string text, rest)
    | '[' :: rest =>
      match skipSpace rest with
      | ']' :: rest => some (.array [], rest)
      | rest => (readElements fuel [] rest).map fun (elements, rest) => (.array elements, rest)
    | '\x7b' :: rest =>
      match skipSpace rest with
      | '\x7d' :: rest => some (.object [], rest)
      | rest => (readMembers fuel [] rest).map fun (members, rest) => (.object members, rest)
    | s => (readNumeral s).map fun (numeral, rest) => (.number numeral, rest)

/-- The elements of an array up to its bracket; `found` holds the earlier ones in reverse. -/
def readElements (fuel : Nat) (found : List Json) (s : List Char) :
    Option (List Json × List Char) :=
  match fuel with
  | 0 => none
  | fuel + 1 =>
    match readValue fuel s with
    | none => none
    | some (value, rest) =>
      match skipSpace rest with
      | ',' :: rest => readElements fuel (value :: found) rest
      | ']' :: rest => some ((value :: found).reverse, rest)
      | _ => none

/-- The members of an object up to its brace; `found` holds the earlier ones in reverse. -/
def readMembers (fuel : Nat) (found : List (Quoted × Json)) (s : List Char) :
    Option (List (Quoted × Json) × List Char) :=
  match fuel with
  | 0 => none
  | fuel + 1 =>
    match skipSpace s with
    | '"' :: rest =>
      match readQuoted [] rest with
      | none => none
      | some (name, rest) =>
        match skipSpace rest with
        | ':' :: rest =>
          match readValue fuel rest with
          | none => none
          | some (value, rest) =>
            match skipSpace rest with
            | ',' :: rest => readMembers fuel ((name, value) :: found) rest
            | '\x7d' :: rest => some (((name, value) :: found).reverse, rest)
            | _ => none
        | _ => none
    | _ => none

end

/-- The value of a document. A value takes at least one character, an element one more for the
comma or bracket behind it, so twice the length bounds the nesting of the calls. -/
def parse? (text : String) : Option Json :=
  let s := text.toList
  match readValue (2 * s.length + 1) s with
  | some (value, rest) => if (skipSpace rest).isEmpty then some value else none
  | none => none

end ConfigFacts.Json
