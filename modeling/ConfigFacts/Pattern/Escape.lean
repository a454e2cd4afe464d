import ConfigFacts.Pattern.Mode
import ConfigFacts.Pattern.Part
import ConfigFacts.Pattern.Property
import ConfigFacts.Text.Digits

/-!
# Escapes in patterns

What a backslash and the characters behind it stand for.
-/

namespace ConfigFacts.Pattern

/-- The smallest items of a pattern. -/
inductive Item where
  /-- A character. -/
  | character (c : Char)
  /-- A character whose code is written with two hexadecimal digits. -/
  | octet (c : Char)
  /-- A set named by a letter, or what is outside of it. -/
  | named (set : NamedSet) (outside : Bool)
  /-- The characters with a property, or those without it. -/
  | property (p : Property) (without : Bool)
  /-- A condition on the position. -/
  | anchor (a : Anchor)

namespace Item

/-- The character that an item stands for. Where sets are ASCII, two hexadecimal digits stand for
an octet, which is no character unless it is ASCII. -/
def literal? (m : Mode) : Item → Option Char
  | character c => some c
  | octet c => if m.unicode || c.toNat < 128 then some c else none
  | _ => none

/-- The set that an item names. Where sets are ASCII, properties and complements have none. -/
def set? (m : Mode) : Item → Option CharacterSet
  | named set outside =>
    if m.unicode then some (if outside then set.outside else set.inUnicode)
    else if outside then none else some set.inAscii
  | property p without =>
    if m.unicode then some (if without then p.others else p.members) else none
  | _ => none

/-- The piece of a pattern that is one item. -/
def part? (m : Mode) : Item → Option Part
  | anchor a => some (.anchor a)
  | i => (i.literal? m).map (Part.literal m) <|> (i.set? m).map Part.oneOf

end Item

/-- Whether a character is a hexadecimal digit. -/
def isHexDigit (c : Char) : Bool :=
  c.isDigit || 'a' ≤ c && c ≤ 'f' || 'A' ≤ c && c ≤ 'F'

/-- The value of a hexadecimal digit. -/
def hexValue (c : Char) : Nat :=
  if c.isDigit then c.toNat - '0'.toNat else c.toLower.toNat - 'a'.toNat + 10

/-- The character whose code is written in hexadecimal digits. -/
def ofHex? (digits : List Char) : Option Char :=
  if digits ≠ [] ∧ digits.all isHexDigit then
    let code := digits.foldl (fun n c => 16 * n + hexValue c) 0
    if code.isValidChar then some (.ofNat code) else none
  else none

/-- A number of leading characters with what the mode skips behind each of them left out. -/
def take? (m : Mode) : Nat → List Char → Option (List Char × List Char)
  | 0, s => some ([], s)
  | _ + 1, [] => none
  | n + 1, c :: s => (take? m n (m.skip s)).map fun (cs, rest) => (c :: cs, rest)

/-- A character by its code, which stands between braces or has a fixed number of digits. -/
def readCode? (m : Mode) (digits : Nat) (s : List Char) : Option (Item × List Char) :=
  match m.skip s with
  | '\x7b' :: s => do
    let (code, s) ← m.braced? s
    return (.character (← ofHex? code), m.skip s)
  | s => do
    let (code, s) ← take? m digits s
    let c ← ofHex? code
    return (if digits = 2 then .octet c else .character c, s)

/-- A property by one letter or by a text between braces. -/
def readProperty? (m : Mode) (without : Bool) (s : List Char) : Option (Item × List Char) :=
  match m.skip s with
  | [] | '\\' :: _ => none
  | '\x7b' :: s => do
    let (text, s) ← m.braced? s
    return (.property (← Property.ofText? text) without, s)
  | c :: s => do
    return (.property (← Property.ofName? [c]) without, s)

/-- The conditions on word borders that are named between braces. -/
def borders : List (String × Anchor) :=
  [("start", .wordStart), ("end", .wordFinish), ("start-half", .afterNoWord),
    ("end-half", .beforeNoWord)]

/-- A word border, with a name between braces or without. A brace that no letter or dash follows
is left to count repetitions. -/
def readBorder? (m : Mode) (s : List Char) : Option (Item × List Char) :=
  match s with
  | '\x7b' :: inner =>
    match m.skip inner with
    | [] => none
    | c :: inner =>
      let inName (c : Char) := c.isAlpha || c = '-'
      if inName c then
        match m.run inName (c :: inner) with
        | (name, '\x7d' :: rest) =>
          (borders.lookup (String.ofList name)).map fun a => (.anchor a, rest)
        | _ => none
      else some (.anchor .wordBorder, s)
  | s => some (.anchor .wordBorder, s)

/-- The characters that letters stand for. -/
def controls : List (Char × Char) :=
  [('a', '\x07'), ('f', '\x0c'), ('t', '\t'), ('n', '\n'), ('r', '\r'), ('v', '\x0b')]

/-- The conditions that letters and brackets stand for. -/
def anchors : List (Char × Anchor) :=
  [('A', .start), ('z', .finish), ('B', .noWordBorder), ('<', .wordStart), ('>', .wordFinish)]

/-- The sets that letters stand for, in upper case for what is outside of them. -/
def namedSets : List (Char × NamedSet) :=
  [('d', .digit), ('s', .blank), ('w', .word)]

/-- What a letter stands for alone: an ASCII sign for itself, a letter as the tables say. -/
def readLetter? (c : Char) : Option Item :=
  (controls.lookup c).map .character <|> (anchors.lookup c).map .anchor
    <|> (namedSets.lookup c.toLower).map (fun set => .named set c.isUpper)
    <|> if c.toNat < 128 && !c.isAlphanum then some (.character c) else none

/-- What the characters behind a backslash stand for, and the text that follows. -/
def readEscape? (m : Mode) : List Char → Option (Item × List Char)
  | [] => none
  | 'x' :: s => readCode? m 2 s
  | 'u' :: s => readCode? m 4 s
  | 'U' :: s => readCode? m 8 s
  | 'p' :: s => readProperty? m false s
  | 'P' :: s => readProperty? m true s
  | 'b' :: s => readBorder? m s
  | c :: s => (readLetter? c).map fun i => (i, s)

end ConfigFacts.Pattern
