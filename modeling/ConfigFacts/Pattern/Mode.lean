import ConfigFacts.Text.Blank

/-!
# Modes of reading a pattern

Flags in a pattern change how the text behind them is read. Three of them matter for the notation of
communities: whether blanks and comments are skipped, whether sets hold all of Unicode or only
ASCII, and whether the case of letters does not matter, which makes an automaton larger.
-/

namespace ConfigFacts.Pattern

/-- How the text of a pattern is read. -/
structure Mode where
  /-- Whether blanks are skipped, and comments from `#` to the end of the line. -/
  spaced : Bool
  /-- Whether sets hold all of Unicode. -/
  unicode : Bool
  /-- Whether the case of letters does not matter. -/
  ignoresCase : Bool
  deriving DecidableEq

namespace Mode

/-- The mode at the start of a pattern. -/
def initial : Mode :=
  ⟨false, true, false⟩

/-- The text behind leading blanks and comments, when it starts inside or outside of a comment. -/
def skipFrom : Bool → List Char → List Char
  | _, [] => []
  | true, c :: s => skipFrom (c != '\n') s
  | false, c :: s =>
    if Text.isBlank c then skipFrom false s
    else if c = '#' then skipFrom true s
    else c :: s

/-- The text behind what the mode skips. -/
def skip (m : Mode) (s : List Char) : List Char :=
  if m.spaced then skipFrom false s else s

/-- The leading characters with a property, without what the mode skips before, between and
behind them, and the text that follows. -/
def runFrom (m : Mode) (p : Char → Bool) : Bool → List Char → List Char × List Char
  | _, [] => ([], [])
  | true, c :: s => m.runFrom p (c != '\n') s
  | false, c :: s =>
    if p c then
      let (run, rest) := m.runFrom p false s
      (c :: run, rest)
    else if m.spaced && Text.isBlank c then m.runFrom p false s
    else if m.spaced && c = '#' then m.runFrom p true s
    else ([], c :: s)

/-- The leading characters with a property. -/
def run (m : Mode) (p : Char → Bool) (s : List Char) : List Char × List Char :=
  m.runFrom p false s

/-- The characters up to a closing brace, without what the mode skips, and the text behind it. -/
def bracedFrom? (m : Mode) : Bool → List Char → Option (List Char × List Char)
  | _, [] => none
  | true, c :: s => m.bracedFrom? (c != '\n') s
  | false, c :: s =>
    if c = '\x7d' then some ([], s)
    else if m.spaced && Text.isBlank c then m.bracedFrom? false s
    else if m.spaced && c = '#' then m.bracedFrom? true s
    else (m.bracedFrom? false s).map fun (inner, rest) => (c :: inner, rest)

/-- The characters up to a closing brace. -/
def braced? (m : Mode) (s : List Char) : Option (List Char × List Char) :=
  m.bracedFrom? false s

/-- The character that decides whether a dash before the text makes a range: the first one behind
blanks and the sign of one comment, where these are skipped and something follows them. -/
def peek (m : Mode) (s : List Char) : Option Char :=
  if m.spaced then
    (match s.dropWhile Text.isBlank with
      | '#' :: rest => (rest.dropWhile Text.isBlank).head?
      | rest => rest.head?) <|> s.head?
  else s.head?

/-- The letters of the flags. -/
def flagLetters : List Char :=
  ['i', 'm', 's', 'U', 'u', 'R', 'x']

/-- Whether a text lists flags: letters once each and perhaps one dash, not at the end. -/
def areFlags (items : List Char) : Bool :=
  items.all (fun c => c = '-' || flagLetters.contains c) && items.eraseDups = items
    && items.getLast? != some '-'

/-- What a list of flags says of one flag, if anything: those behind the dash are off. -/
def flag? (items : List Char) (letter : Char) : Option Bool :=
  if items.contains letter then some ((items.takeWhile (· != '-')).contains letter) else none

/-- The mode after a list of flags. -/
def withFlags (m : Mode) (items : List Char) : Mode :=
  ⟨(flag? items 'x').getD m.spaced, (flag? items 'u').getD m.unicode,
    (flag? items 'i').getD m.ignoresCase⟩

end Mode

end ConfigFacts.Pattern
