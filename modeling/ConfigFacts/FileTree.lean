import ConfigFacts.SortedMap

/-!
# File trees

The files and folders of a machine, and the folder in which a program runs. A path with a slash in
front starts at the root of the tree, any other one in the current folder. It is resolved name by
name, as a file system does: every name on the way has to be a folder that is there, `.` stays and
`..` goes back, at the root to the root itself.
-/

namespace ConfigFacts

/-- What stands at a place of a tree. -/
inductive Node where
  /-- A folder. -/
  | folder
  /-- A file, with its text unless its bytes are none. -/
  | file (text : Option String)
  deriving DecidableEq, Inhabited

/-- A place in a tree: the names that lead to it from the root. -/
abbrev Place := List String

/-- The files and folders of a machine. -/
structure FileTree where
  /-- What stands where. The root is always a folder and not listed. -/
  nodes : SortedMap Place Node
  /-- The folder in which the program runs. -/
  current : Place
  deriving DecidableEq

namespace FileTree

/-- The tree without files, in which the program runs at the root. -/
def empty : FileTree :=
  ⟨.empty, []⟩

/-- What stands at a place. -/
def node? (t : FileTree) (place : Place) : Option Node :=
  if place = [] then some .folder else t.nodes.get? place

/-- The tree with a node at a place. -/
def put (t : FileTree) (place : Place) (node : Node) : FileTree :=
  { t with nodes := t.nodes.insert place node }

/-! ### Paths -/

/-- The names of a path, in which empty names come from repeated slashes and from one at an end. -/
def names (path : String) : List String :=
  (path.toList.splitOn '/').map String.ofList

/-- Whether a file system takes a name. -/
def isShort (name : String) : Bool :=
  name.utf8ByteSize ≤ 255

/-- Whether a file system looks at the names of a path: the path is not too long, and no character
in it is null. -/
def isReadable (path : String) : Bool :=
  path.utf8ByteSize < 4096 && !path.toList.contains '\x00'

/-- Whether a file system takes a path: it is not empty, and neither it nor a name in it is too
long. -/
def isUsable (path : String) : Bool :=
  path ≠ "" && isReadable path && (names path).all isShort

/-- Where a path starts: at the root, or in the current folder, which has to be there. -/
def origin? (t : FileTree) (path : String) : Option Place :=
  if path.toList.head? = some '/' then some []
  else if t.node? t.current = some .folder then some t.current
  else none

/-- Where a name leads from a folder, if it leads to a folder. -/
def enter? (t : FileTree) (place : Place) (name : String) : Option Place :=
  if name = "" ∨ name = "." then some place
  else if name = ".." then some place.dropLast
  else match t.node? (place ++ [name]) with
    | some .folder => some (place ++ [name])
    | _ => none

/-- The folder that some names lead to from a folder. -/
def follow? (t : FileTree) (place : Place) (path : List String) : Option Place :=
  path.foldlM t.enter? place

/-- The folder that a path leads to. -/
def folder? (t : FileTree) (path : String) : Option Place := do
  guard (isUsable path)
  t.follow? (← t.origin? path) (names path)

/-- The folder that all names of a path but the last one lead to. -/
def parent? (t : FileTree) (path : String) : Option Place := do
  t.follow? (← t.origin? path) (names path).dropLast

/-- The place for a file that a path leads to, in a folder that is there. -/
def filePlace? (t : FileTree) (path : String) : Option Place := do
  guard (isUsable path)
  let name ← (names path).getLast?
  guard ¬["", ".", ".."].contains name
  return (← t.parent? path) ++ [name]

/-- A path and a name behind it. A name that starts with a slash stands alone. -/
def join (path name : String) : String :=
  if name.toList.head? = some '/' then name
  else if path = "" ∨ path.toList.getLast? = some '/' then path ++ name
  else path ++ "/" ++ name

/-! ### Reading -/

/-- The text of the file that a path leads to. -/
def text? (t : FileTree) (path : String) : Option String := do
  match ← t.node? (← t.filePlace? path) with
  | .file text => text
  | .folder => none

/-- The names in a folder and what they name. -/
def children (t : FileTree) (folder : Place) : List (String × Node) :=
  t.nodes.entries.filterMap fun (place, node) =>
    match place.getLast? with
    | some name => if place = folder ++ [name] then some (name, node) else none
    | none => none

/-- What is in the folder that a path leads to, as it is read behind this path: a name that makes
the path too long gives no text. -/
def list? (t : FileTree) (path : String) : Option (List (String × Node)) := do
  let place ← t.folder? path
  return (t.children place).map fun (name, node) =>
    (name, if isUsable (join path name) then node else .file none)

/-! ### Writing -/

/-- The tree with a file that a path leads to; a file that is there gets the new text. -/
def write? (t : FileTree) (path text : String) : Option FileTree := do
  let place ← t.filePlace? path
  guard (t.node? place ≠ some .folder)
  return t.put place (.file (some text))

/-- The folder that a name leads to, made if nothing has the name. -/
def makeFolder? (t : FileTree) (place : Place) (name : String) : Option (FileTree × Place) :=
  match t.enter? place name with
  | some next => some (t, next)
  | none =>
    if isShort name && (t.node? (place ++ [name])).isNone then
      some (t.put (place ++ [name]) .folder, place ++ [name])
    else none

/-- The tree with the folders that some names lead to, and whether all of them are there. What is
made before a name that leads nowhere stays. -/
def makeAlong (t : FileTree) (place : Place) : List String → FileTree × Bool
  | [] => (t, true)
  | name :: rest =>
    match t.makeFolder? place name with
    | some (u, next) => u.makeAlong next rest
    | none => (t, false)

/-- Whether the last name of a path is a point. -/
def endsInPoint (path : String) : Bool :=
  ((names path).reverse.dropWhile (· = "")).head? = some "."

/-- The names before the last one of a path, points and empty names at its end apart. -/
def namesAbove (path : String) : List String :=
  ((names path).reverse.dropWhile fun name => name = "" ∨ name = ".").reverse.dropLast

/-- The tree with all folders on a path, and whether the path leads to a folder then. The empty path
needs none. A folder is not made by a name with a point behind it, only those above it are. -/
def makeFolders (t : FileTree) (path : String) : FileTree × Bool :=
  if path = "" then (t, true)
  else match t.origin? path with
    | none => (t, false)
    | some start =>
      if !isReadable path then (t, false)
      else if endsInPoint path then
        let u := (t.makeAlong start (namesAbove path)).1
        (u, (u.folder? path).isSome)
      else t.makeAlong start (names path)

/-- The tree with a node at a place and folders on the way to it. -/
def plant (t : FileTree) (place : Place) (node : Node) : FileTree :=
  ((List.range (place.length - 1)).foldl (fun t n => t.put (place.take (n + 1)) .folder) t).put
    place node

end FileTree

end ConfigFacts
