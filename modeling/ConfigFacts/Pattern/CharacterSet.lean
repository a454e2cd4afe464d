import ConfigFacts.Pattern.Mode

/-!
# Sets of characters in patterns

A set says which characters belong to it and how many bytes it takes in an automaton that reads
UTF-8. A set that is written as characters and ranges is kept as the ranges of its codes, so its
bytes are counted. Named sets of Unicode are long; as patterns are matched against the notation of
communities, only membership of the digits and the colon matters, and their bytes are recorded.
-/

namespace ConfigFacts.Pattern

/-- The bytes of a state of an automaton. -/
def stateSize : Nat := 32

/-- The bytes of a step from a state that has several of them. -/
def stepSize : Nat := 8

/-- The bytes of a branch that a choice between states has. -/
def branchSize : Nat := 4

/-- The first and the last code of a range. -/
abbrev CodeRange := Nat × Nat

namespace CodeRange

/-- The largest code of a character. -/
def maximum : Nat := 0x10FFFF

/-- The codes in ascending ranges of which no two touch. -/
def join (rs : List CodeRange) : List CodeRange :=
  ((rs.mergeSort fun a b => a.1 ≤ b.1).foldl (fun joined r =>
    match joined with
    | last :: rest => if r.1 ≤ last.2 + 1 then (last.1, max last.2 r.2) :: rest else r :: joined
    | [] => [r]) []).reverse

/-- The codes from a first one on that are not in ascending ranges. -/
def gaps : Nat → List CodeRange → List CodeRange
  | next, [] => if next ≤ maximum then [(next, maximum)] else []
  | next, (first, last) :: rest =>
    (if next < first then [(next, first - 1)] else []) ++ gaps (last + 1) rest

/-- The codes that two ranges have in common. -/
def common? (r s : CodeRange) : Option CodeRange :=
  if max r.1 s.1 ≤ min r.2 s.2 then some (max r.1 s.1, min r.2 s.2) else none

/-- The numbers of a range by their digits to base 64, of which all but some last ones are one
digit: as few runs as possible of which each is a range of digits at each place. -/
def digitRuns : Nat → CodeRange → List (List CodeRange)
  | 0, r => [[r]]
  | places + 1, (first, last) =>
    let unit := 64 ^ (places + 1)
    let whole (low high : Nat) : List (List CodeRange) :=
      if low ≤ high then [(low, high) :: .replicate (places + 1) (0, 63)] else []
    let behind (digit : Nat) (r : CodeRange) := (digitRuns places r).map ((digit, digit) :: ·)
    let low := first / unit
    let high := last / unit
    if first % unit = 0 ∧ last % unit = unit - 1 then whole low high
    else if low = high then behind low (first % unit, last % unit)
    else if first % unit = 0 then whole low (high - 1) ++ behind high (0, last % unit)
    else if last % unit = unit - 1 then
      behind low (first % unit, unit - 1) ++ whole (low + 1) high
    else
      behind low (first % unit, unit - 1) ++ whole (low + 1) (high - 1)
        ++ behind high (0, last % unit)

/-- The codes of characters whose encodings are equally long: the number of bytes behind the first
one, what that adds to the first digit, and the range. -/
def lengths : List (Nat × Nat × CodeRange) :=
  [(0, 0x00, (0x00, 0x7F)), (1, 0xC0, (0x80, 0x7FF)), (2, 0xE0, (0x800, 0xD7FF)),
    (2, 0xE0, (0xE000, 0xFFFF)), (3, 0xF0, (0x10000, maximum))]

/-- The encodings of a range, as runs of a range of values for each byte; for a byte that is not
the first one the values are digits. -/
def encodings (r : CodeRange) : List (List CodeRange) :=
  lengths.flatMap fun (places, lead, block) =>
    ((common? r block).elim [] (digitRuns places)).map fun run =>
      run.modifyHead fun (first, last) => (lead + first, lead + last)

end CodeRange

/-- A set of characters. -/
inductive CharacterSet where
  /-- The characters with a code in one of some ascending ranges. -/
  | written (ranges : List CodeRange)
  /-- The characters that a test recognizes, as far as it matters, and the bytes that they take. -/
  | recorded (contains : Char → Bool) (size : Nat)

namespace CharacterSet

/-- Whether a character belongs to a set. -/
def contains : CharacterSet → Char → Bool
  | written ranges, c => ranges.any fun (first, last) => first ≤ c.toNat && c.toNat ≤ last
  | recorded contains _, c => contains c

/-- The bytes that a set takes. ASCII characters are steps from one state. Otherwise there is a
state for each byte of an encoding, which encodings with the same bytes before it share. -/
def size : CharacterSet → Nat
  | recorded _ size => size
  | written ranges =>
    if ranges = [] then stateSize
    else if ranges.all fun r => r.2 < 0x80 then 2 * stateSize + stepSize * ranges.length
    else
      let runs := ranges.flatMap CodeRange.encodings
      let states := runs.flatMap fun run => (List.range run.length).map fun n => run.take (n + 1)
      2 * stateSize + branchSize * runs.length + stateSize * states.eraseDups.length

/-- The character of a set that is written with one only. -/
def only? : CharacterSet → Option Char
  | written [(first, last)] => if first = last then some (Char.ofNat first) else none
  | _ => none

/-- The set without characters. -/
def empty : CharacterSet :=
  written []

/-- The characters from a first to a last one. -/
def range (first last : Char) : CharacterSet :=
  written [(first.toNat, last.toNat)]

/-- The set of one character. -/
def single (c : Char) : CharacterSet :=
  range c c

/-- The characters of either set. -/
def union : CharacterSet → CharacterSet → CharacterSet
  | written rs, written ss => written (CodeRange.join (rs ++ ss))
  | s, t => recorded (fun c => s.contains c || t.contains c) (s.size + t.size)

/-- The characters of both sets. -/
def inter : CharacterSet → CharacterSet → CharacterSet
  | written rs, written ss => written (rs.flatMap fun r => ss.filterMap r.common?)
  | s, t => recorded (fun c => s.contains c && t.contains c) (s.size + t.size)

/-- The characters outside a set. -/
def complement : CharacterSet → CharacterSet
  | written rs => written (CodeRange.gaps 0 rs)
  | s => recorded (fun c => !s.contains c) (s.size + min s.size 8000 + 1000)

/-- The characters of the first set that are not in the second one. -/
def diff : CharacterSet → CharacterSet → CharacterSet
  | written rs, written ss => inter (written rs) (complement (written ss))
  | s, t => recorded (fun c => s.contains c && !t.contains c) (s.size + t.size)

/-- The characters of exactly one of the sets. -/
def symmDiff : CharacterSet → CharacterSet → CharacterSet
  | written rs, written ss =>
    union (diff (written rs) (written ss)) (diff (written ss) (written rs))
  | s, t => recorded (fun c => s.contains c != t.contains c) (s.size + t.size)

/-- The union of the sets of a list. -/
def ofList (sets : List CharacterSet) : CharacterSet :=
  sets.foldl union empty

/-- All characters but the line feed. -/
def line : CharacterSet :=
  complement (single '\n')

/-- The cases of the ASCII letters; two of them have a further one outside of ASCII. -/
def letterCases (unicode : Bool) : List (List Char) :=
  let further := if unicode then [('k', '\u212a'), ('s', '\u017f')] else []
  "abcdefghijklmnopqrstuvwxyz".toList.map fun c =>
    c :: c.toUpper :: (further.lookup c).toList

/-- The set in a mode: where the case of letters does not matter, ASCII letters are there in each
case. Other letters are left alone. -/
def inMode (m : Mode) (s : CharacterSet) : CharacterSet :=
  if m.ignoresCase then
    ((letterCases m.unicode).filter fun cases => cases.any s.contains).foldl
      (fun s cases => cases.foldl (fun s c => s.union (single c)) s) s
  else s

end CharacterSet

/-- A set that a pattern names by one letter. -/
inductive NamedSet where
  /-- The decimal digits. -/
  | digit
  /-- The blank characters. -/
  | blank
  /-- The characters of words: letters, digits and connectors. -/
  | word
  deriving DecidableEq

namespace NamedSet

/-- The members of a named set among all characters. -/
def inUnicode : NamedSet → CharacterSet
  | digit => .recorded Char.isDigit 5184
  | blank => .written Text.blankRanges
  | word => .recorded (fun c => c.isAlphanum || c = '_') 50380

/-- The characters outside a named set. -/
def outside : NamedSet → CharacterSet
  | digit => .recorded (fun c => !c.isDigit) 12824
  | blank => blank.inUnicode.complement
  | word => .recorded (fun c => !(c.isAlphanum || c = '_')) 46964

/-- The members of a named set among the ASCII characters. -/
def inAscii : NamedSet → CharacterSet
  | digit => .range '0' '9'
  | blank => .ofList [.range '\t' '\r', .single ' ']
  | word => .ofList [.range '0' '9', .range 'A' 'Z', .single '_', .range 'a' 'z']

end NamedSet

/-- The sets of ASCII characters that have a name between colons. -/
def asciiSets : List (String × CharacterSet) :=
  let upper := CharacterSet.range 'A' 'Z'
  let lower := CharacterSet.range 'a' 'z'
  let digit := CharacterSet.range '0' '9'
  [("alnum", .ofList [digit, upper, lower]), ("alpha", .ofList [upper, lower]),
    ("ascii", .range '\x00' '\x7f'), ("blank", .ofList [.single '\t', .single ' ']),
    ("cntrl", .ofList [.range '\x00' '\x1f', .single '\x7f']), ("digit", digit),
    ("graph", .range '!' '~'), ("lower", lower), ("print", .range ' ' '~'),
    ("punct", .diff (.range '!' '~') (.ofList [digit, upper, lower])),
    ("space", NamedSet.blank.inAscii), ("upper", upper), ("word", NamedSet.word.inAscii),
    ("xdigit", .ofList [digit, .range 'A' 'F', .range 'a' 'f'])]

end ConfigFacts.Pattern
