import QueryBuilder.Project.FileSystem

/-!
# Disks

A disk is a map from places to files and directories, together with a working directory.  A *place*
is the list of names that leads to it from the root.

* `Disk.walk` — follows the names of a path.  Every directory on the way must be there.
* `Disk.read`, `Disk.write`, `Disk.list`, `Disk.makeDirectory`, `Disk.makeDirectories` — the
  operations.
* `Disk.fileSystem` — the operations as actions that change a disk.
* `Disk.changes` — what is on one disk and not, or not so, on another.
-/

set_option autoImplicit false

namespace QueryBuilder
namespace Project

/-- What stands at a place. -/
inductive Node where
  | file (content : ByteArray)
  | directory

/-- Files are compared by their contents. -/
instance : DecidableEq Node
  | .file a, .file b =>
    match ByteArray.instDecidableEq a b with
    | isTrue h => isTrue (congrArg Node.file h)
    | isFalse h => isFalse fun heq => h (Node.file.inj heq)
  | .directory, .directory => isTrue rfl
  | .file _, .directory => isFalse fun h => Node.noConfusion h
  | .directory, .file _ => isFalse fun h => Node.noConfusion h

/-- The names that lead to a file or directory from the root. -/
abbrev Place := List String

/-- The files and directories of a disk, the root apart, and the working directory. -/
structure Disk where
  nodes : List (Place × Node)
  workingDirectory : Place

namespace Disk

/-- What stands at a place. -/
def node? (d : Disk) (place : Place) : Option Node :=
  if place.isEmpty then some .directory
  else (d.nodes.find? (fun n => n.1 == place)).map (·.2)

/-- Whether a directory stands at a place. -/
def isDirectory (d : Disk) (place : Place) : Bool :=
  d.node? place == some .directory

/-- Puts a file or directory at a place. -/
def put (d : Disk) (place : Place) (node : Node) : Disk :=
  { d with nodes := (place, node) :: d.nodes.filter fun n => n.1 != place }

/-! ## Paths on a disk -/

/-- The greatest number of bytes of a name. -/
def maxNameBytes : Nat := 255

/-- The greatest number of bytes of a path. -/
def maxPathBytes : Nat := 4095

/-- The names of a path, points included. -/
def names (path : Path) : List String :=
  ((Path.segments path.text.toList).filter fun s => !s.isEmpty).map String.ofList

/-- Whether a path ends in a slash. -/
def endsInSlash (path : Path) : Bool :=
  path.text.toList.getLast? == some '/'

/-- Refuses a path that names nothing on any disk. -/
def checkPath (path : Path) : Except FileError Unit :=
  if path.text.toList.contains (Char.ofNat 0) then .error .zeroInName
  else if path.text.isEmpty then .error .notFound
  else if maxPathBytes < path.text.utf8ByteSize then .error .nameTooLong
  else .ok ()

/-- The place where the names of a path start. -/
def start (d : Disk) (path : Path) : Place :=
  if path.isAbsolute then [] else d.workingDirectory

/-- The place of a name in a directory.  Nothing has to stand there. -/
def child (d : Disk) (here : Place) (name : String) : Except FileError Place :=
  if !d.isDirectory here then .error .notADirectory
  else if name = "." then .ok here
  else if name = ".." then .ok here.dropLast
  else if maxNameBytes < name.utf8ByteSize then .error .nameTooLong
  else .ok (here ++ [name])

/-- Follows names from a place to another. -/
def walk (d : Disk) (here : Place) : List String → Except FileError Place
  | [] => .ok here
  | name :: rest => do
    let next ← d.child here name
    if (d.node? next).isNone then .error .notFound else walk d next rest

/-- The place and node that a path leads to. -/
def locate (d : Disk) (path : Path) : Except FileError (Place × Node) := do
  checkPath path
  let place ← d.walk (d.start path) (names path)
  match d.node? place with
  | none => .error .notFound
  | some node =>
    if endsInSlash path && node != .directory then .error .notADirectory
    else return (place, node)

/-- The place that a path leads to, where nothing has to stand, and the last name of the path.  The
directory around it must be there. -/
def locateNew (d : Disk) (path : Path) : Except FileError (Place × Option String) := do
  checkPath path
  let steps := names path
  let parent ← d.walk (d.start path) steps.dropLast
  match steps.getLast? with
  | none => return (parent, none)
  | some name => return (← d.child parent name, some name)

/-! ## Operations -/

/-- The text of a file. -/
def read (d : Disk) (path : Path) : Except FileError String := do
  match ← d.locate path with
  | (_, .directory) => .error .isADirectory
  | (_, .file content) =>
    match String.fromUTF8? content with
    | some text => return text
    | none => .error .notText

/-- The entry of a directory that stands at a place, if it does. -/
def entryIn? (directory : Place) (node : Place × Node) : Option DirEntry :=
  match node.1.getLast? with
  | some name =>
    if node.1.dropLast = directory then some ⟨name, node.2 != .directory⟩ else none
  | none => none

/-- The entries of a directory. -/
def list (d : Disk) (path : Path) : Except FileError (List DirEntry) := do
  match ← d.locate path with
  | (_, .file _) => .error .notADirectory
  | (place, .directory) => return d.nodes.filterMap (entryIn? place)

/-- Whether a name of a path is none of its own, but stands for a directory on the way. -/
def isPointName (name : String) : Bool :=
  name == "." || name == ".."

/-- Creates a file or replaces its content. -/
def write (d : Disk) (path : Path) (text : String) : Except FileError Disk := do
  let (place, name?) ← d.locateNew path
  if endsInSlash path || name?.all isPointName || d.isDirectory place then .error .isADirectory
  else return d.put place (.file text.toUTF8)

/-- Creates a directory in one that is there. -/
def makeDirectory (d : Disk) (path : Path) : Except FileError Disk := do
  let (place, name?) ← d.locateNew path
  if name?.all isPointName || (d.node? place).isSome then .error .alreadyExists
  else return d.put place .directory

/-- Whether a path leads to a directory. -/
def leadsToDirectory (d : Disk) (path : Path) : Bool :=
  match d.locate path with
  | .ok (_, node) => node == .directory
  | .error _ => false

/-- A path and the paths above it, the nearest first.  The empty path is left out. -/
def ancestors : (steps : Nat) → Path → List Path
  | 0, _ => []
  | steps + 1, path =>
    if path.text.isEmpty then []
    else
      match path.parent? with
      | none => [path]
      | some parent => path :: ancestors steps parent

/-- Creates a directory in one that is there, unless it exists. -/
def ensureDirectory (d : Disk) (path : Path) : Except FileError Disk :=
  match d.makeDirectory path with
  | .ok d => .ok d
  | .error e => if e = .alreadyExists && d.leadsToDirectory path then .ok d else .error e

/-- Goes up from a path to the first directory that exists or can be created.  The answer holds the
paths that are still missing, the topmost first. -/
def makeTopmost (d : Disk) (missing : List Path) :
    List Path → Except FileError (List Path × Disk)
  | [] => .ok (missing, d)
  | path :: above =>
    match d.ensureDirectory path with
    | .ok d => .ok (missing, d)
    | .error .notFound => makeTopmost d (path :: missing) above
    | .error e => .error e

/-- Creates directories one after the other.  A failure leaves those that were created before. -/
def makeEach (d : Disk) : List Path → Disk × Except FileError Unit
  | [] => (d, .ok ())
  | path :: rest =>
    match d.ensureDirectory path with
    | .ok d => makeEach d rest
    | .error e => (d, .error e)

/-- Creates a directory and those above it, as far as they are missing. -/
def makeDirectories (d : Disk) (path : Path) : Disk × Except FileError Unit :=
  match d.makeTopmost [] (ancestors (path.components.length + 1) path) with
  | .error e => (d, .error e)
  | .ok (missing, d) => d.makeEach missing

/-- An operation that may change the disk; a failure leaves it as it is. -/
def attempt (operation : Disk → Except FileError Disk) : StateM Disk (Except FileError Unit) :=
  fun d =>
    match operation d with
    | .ok d => (.ok (), d)
    | .error e => (.error e, d)

/-- The operations on a disk. -/
def fileSystem : FileSystem (StateM Disk) where
  readText path := fun d => (d.read path, d)
  list path := fun d => (d.list path, d)
  createDirectories path := fun d => ((d.makeDirectories path).2, (d.makeDirectories path).1)
  writeText path text := attempt fun d => d.write path text

/-! ## Disks as a whole -/

/-- Puts a node at a place and the directories above it, as far as they are missing. -/
def putDeep (d : Disk) (place : Place) (node : Node) : Disk :=
  let above := (List.range place.length).map fun n => place.take n
  let d := above.foldl (fun d p => if (d.node? p).isSome then d else d.put p .directory) d
  if node == .directory && (d.node? place).isSome then d else d.put place node

/-- What stands on the second disk and not, or not so, on the first. -/
def changes (before after : Disk) : List (Place × Node) :=
  after.nodes.filter fun n => before.node? n.1 != some n.2

end Disk

end Project
end QueryBuilder
