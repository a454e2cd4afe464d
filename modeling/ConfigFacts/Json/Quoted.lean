import ConfigFacts.Json.Value

/-!
# Strings of JSON

`Quoted.ofString` writes a text with as few escapes as JSON allows: the quote, the backslash and
the control characters below U+0020, five of which have a letter of their own. `Quoted.text?`
undoes every escape. A `\u` escape names a UTF-16 unit, so the text is undefined when one half of
a surrogate pair stands without the other.
-/

namespace ConfigFacts.Quoted

/-- A hexadecimal digit in lower case. -/
def hexDigit (n : Nat) : Char :=
  Nat.digitChar n

/-- The value of a hexadecimal digit of either case. -/
def hexValue? (c : Char) : Option Nat :=
  if '0' ≤ c ∧ c ≤ '9' then some (c.toNat - '0'.toNat)
  else if 'a' ≤ c ∧ c ≤ 'f' then some (c.toNat - 'a'.toNat + 10)
  else if 'A' ≤ c ∧ c ≤ 'F' then some (c.toNat - 'A'.toNat + 10)
  else none

/-- The value of four hexadecimal digits. -/
def unit? (a b c d : Char) : Option Nat := do
  return ((← hexValue? a) * 16 + (← hexValue? b)) * 256 + (← hexValue? c) * 16 + (← hexValue? d)

/-- A character as it is written between quotes. -/
def encodeChar (c : Char) : List Char :=
  if c = '"' then ['\\', '"']
  else if c = '\\' then ['\\', '\\']
  else if c = '\x08' then ['\\', 'b']
  else if c = '\x0c' then ['\\', 'f']
  else if c = '\n' then ['\\', 'n']
  else if c = '\r' then ['\\', 'r']
  else if c = '\t' then ['\\', 't']
  else if c.toNat < 0x20 then
    ['\\', 'u', '0', '0', hexDigit (c.toNat / 16), hexDigit (c.toNat % 16)]
  else [c]

/-- A text as it is written between quotes. -/
def ofString (s : String) : Quoted :=
  ⟨s.toList.flatMap encodeChar⟩

/-- The character of a one-letter escape. -/
def escaped? (c : Char) : Option Char :=
  match c with
  | '"' => some '"'
  | '\\' => some '\\'
  | '/' => some '/'
  | 'b' => some '\x08'
  | 'f' => some '\x0c'
  | 'n' => some '\n'
  | 'r' => some '\r'
  | 't' => some '\t'
  | _ => none

/-- Whether a UTF-16 unit is the first half of a pair. -/
def isHighSurrogate (n : Nat) : Bool :=
  0xD800 ≤ n && n < 0xDC00

/-- Whether a UTF-16 unit is the second half of a pair. -/
def isLowSurrogate (n : Nat) : Bool :=
  0xDC00 ≤ n && n < 0xE000

/-- The character that the two halves of a pair name. -/
def joinSurrogates (high low : Nat) : Char :=
  Char.ofNat (0x10000 + (high - 0xD800) * 0x400 + (low - 0xDC00))

/-- The characters that a written text stands for, in front of those already found in reverse. -/
def decodeOnto (found : List Char) : List Char → Option (List Char)
  | [] => some found.reverse
  | '\\' :: 'u' :: a :: b :: c :: d :: '\\' :: 'u' :: e :: f :: g :: h :: rest => do
    let first ← unit? a b c d
    if isLowSurrogate first then none
    else if isHighSurrogate first then
      let second ← unit? e f g h
      if isLowSurrogate second then decodeOnto (joinSurrogates first second :: found) rest else none
    else decodeOnto (Char.ofNat first :: found) ('\\' :: 'u' :: e :: f :: g :: h :: rest)
  | '\\' :: 'u' :: a :: b :: c :: d :: rest => do
    let unit ← unit? a b c d
    if isLowSurrogate unit || isHighSurrogate unit then none
    else decodeOnto (Char.ofNat unit :: found) rest
  | '\\' :: c :: rest => do
    decodeOnto ((← escaped? c) :: found) rest
  | '\\' :: [] => none
  | c :: rest => decodeOnto (c :: found) rest
termination_by written => written.length

/-- The text that stands between the quotes, if every surrogate in it has its other half. -/
def text? (q : Quoted) : Option String :=
  (decodeOnto [] q.characters).map String.ofList

end ConfigFacts.Quoted
