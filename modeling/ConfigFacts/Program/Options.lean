import ConfigFacts.Text.Digits

/-!
# Options

The arguments of the program. `Options.ofArguments?` reads them; every setting is given at most
once, its value behind it as an argument of its own or in the same argument.
-/

namespace ConfigFacts

/-- What the program is asked to do. -/
structure Options where
  /-- The folder with the configurations. -/
  configs : String
  /-- The file with the edge list of the topology. -/
  topology : Option String
  /-- The folder for the facts. -/
  output : String
  /-- The folder for the dumps. -/
  json : Option String
  /-- The number of workers. -/
  threads : Option Nat
  /-- Whether a device without facts is an error. -/
  strict : Bool
  deriving DecidableEq

namespace Options

/-- The folder for the facts when none is given. -/
def defaultOutput : String := "facts"

/-- The settings that take a value. -/
inductive Setting where
  /-- The folder with the configurations. -/
  | configs
  /-- The file with the topology. -/
  | topology
  /-- The folder for the facts. -/
  | output
  /-- The folder for the dumps. -/
  | json
  /-- The number of workers. -/
  | threads
  deriving DecidableEq

/-- The settings by their names behind two dashes. -/
def longNames : List (String × Setting) :=
  [("configs", .configs), ("topology", .topology), ("output", .output), ("json", .json),
    ("threads", .threads)]

/-- The settings by their letters behind one dash. -/
def letters : List (Char × Setting) :=
  [('c', .configs), ('o', .output), ('t', .threads)]

/-- An argument that is no value. -/
inductive Argument where
  /-- The demand to be strict. -/
  | strict
  /-- A setting whose value is the next argument. -/
  | setting (s : Setting)
  /-- A setting with its value. -/
  | assigned (s : Setting) (value : String)
  deriving DecidableEq

/-- An argument behind two dashes. -/
def longArgument? (s : List Char) : Option Argument :=
  match s.span (· != '=') with
  | (name, []) =>
    if name = "strict".toList then some .strict
    else (longNames.lookup (String.ofList name)).map .setting
  | (name, _ :: value) =>
    (longNames.lookup (String.ofList name)).map fun s => .assigned s (String.ofList value)

/-- An argument behind one dash: a letter and its value, if that is not the next argument. -/
def shortArgument? (letter : Char) (value : List Char) : Option Argument :=
  (letters.lookup letter).map fun s =>
    match value with
    | [] => .setting s
    | '=' :: value => .assigned s (String.ofList value)
    | value => .assigned s (String.ofList value)

/-- The meaning of an argument where no value is expected. -/
def argument? (a : String) : Option Argument :=
  match a.toList with
  | '-' :: '-' :: s => longArgument? s
  | '-' :: c :: s => shortArgument? c s
  | _ => none

/-- Whether an argument can be the value of the setting before it. A dash alone can. -/
def isValue (a : String) : Bool :=
  a = "-" || a.toList.head? != some '-'

/-- The arguments with values joined to their settings. Two dashes may stand at the end. -/
def arguments? : List String → Option (List Argument)
  | [] => some []
  | ["--"] => some []
  | [a] => do
    match ← argument? a with
    | .setting _ => none
    | complete => return [complete]
  | a :: b :: rest => do
    match ← argument? a with
    | .setting s =>
      if isValue b then return .assigned s b :: (← arguments? rest) else none
    | complete => return complete :: (← arguments? (b :: rest))

/-- The values that are given for a setting. -/
def valuesOf (s : Setting) (arguments : List Argument) : List String :=
  arguments.filterMap fun
    | .assigned t value => if t = s then some value else none
    | _ => none

/-- The value of a setting that is given at most once, if it is given. -/
def value? (s : Setting) (arguments : List Argument) : Option (Option String) :=
  match valuesOf s arguments with
  | [] => some none
  | [value] => some (some value)
  | _ => none

/-- A number below `2 ^ 64`, perhaps with a plus sign. -/
def number? (s : String) : Option Nat :=
  let digits := match s.toList with
    | '+' :: digits => digits
    | digits => digits
  (Text.natural? digits).filter (· < UInt64.size)

/-- What a list of arguments asks for. -/
def ofArguments? (args : List String) : Option Options := do
  let arguments ← arguments? args
  let strict := arguments.filter (· = .strict)
  guard (strict.length ≤ 1)
  let threads ← value? .threads arguments
  return {
    configs := ← ← value? .configs arguments
    topology := ← value? .topology arguments
    output := (← value? .output arguments).getD defaultOutput
    json := ← value? .json arguments
    threads := ← threads.mapM number?
    strict := !strict.isEmpty }

end Options

end ConfigFacts
