import QueryBuilder.CommandLine.Run

/-!
# The program

The outer layer: files, streams and the clock of the operating system around
`QueryBuilder.CommandLine`.
-/

set_option autoImplicit false

namespace QueryBuilder
namespace Main

open Project CommandLine

/-- The cause of a failure that the system reports. -/
def fileError : IO.Error → FileError
  | .noFileOrDirectory .. => .notFound
  | .alreadyExists .. => .alreadyExists
  | .inappropriateType _ code details =>
    if code = 20 then .notADirectory else if code = 21 then .isADirectory else .other details
  | e => .other (toString e)

/-- An action on files, its failure as a value. -/
def guarded {α : Type} (action : IO α) : IO (Except FileError α) := do
  try
    return .ok (← action)
  catch e =>
    return .error (fileError e)

/-- The entries of a directory. -/
def listDirectory (path : Path) : IO (List DirEntry) := do
  let entries ← ((← IO.currentDir) / path.text).readDir
  entries.toList.mapM fun e => do
    let info ← (e.root / e.fileName).symlinkMetadata
    let isFile := match info.type with
      | .file => true
      | _ => false
    return ⟨e.fileName, isFile⟩

/-- The files of the operating system. -/
def systemFiles : FileSystem IO where
  readText path := do
    match ← guarded (IO.FS.readBinFile path.text) with
    | .error e => return .error e
    | .ok bytes =>
      match String.fromUTF8? bytes with
      | some text => return .ok text
      | none => return .error .notText
  list path := guarded (listDirectory path)
  createDirectories path :=
    if path.text.isEmpty then pure (.ok ()) else guarded (IO.FS.createDirAll path.text)
  writeText path text := guarded (IO.FS.writeFile path.text text)

/-- What the program says when it is asked for help. -/
def usage : String :=
  "\n".intercalate [
    "Usage: gryphin [OPTIONS] <COMMAND>",
    "",
    "Commands:",
    "  generate  Generate a query builder from the schema named in `.gryphin`",
    "  inspect   Print a summary of an introspection schema",
    "  version   Print version information",
    "",
    "Options:",
    "  -v, --verbose",
    "  -q, --quiet",
    "  -h, --help     Print help",
    "  -V, --version  Print version",
    ""]

/-- Answers a command line that cannot be run. -/
def refuse (e : UsageError) : IO UInt32 := do
  match e with
  | .displayHelp =>
    IO.print usage
    return 0
  | .displayVersion =>
    IO.println versionText
    return 0
  | _ =>
    IO.eprint usage
    return 2

/-- Whether a command line asks for a generation run that speaks. -/
def isTimed (i : Invocation) : Bool :=
  match i.command with
  | .generate .. => !i.quiet
  | .inspect _ | .version => false

/-- A number of milliseconds as seconds. -/
def seconds (milliseconds : Nat) : String :=
  let rest := toString (milliseconds % 1000)
  s!"{milliseconds / 1000}." ++ String.ofList (List.replicate (3 - rest.length) '0') ++ rest

/-- Runs a command line. -/
def execute (i : Invocation) : IO UInt32 := do
  let start ← IO.monoMsNow
  let color ← (← IO.getStdout).isTty
  let outcome ← run systemFiles color i
  IO.eprint outcome.stderr
  IO.print outcome.stdout
  match outcome.result with
  | .ok () =>
    if isTimed i then
      let elapsed := seconds ((← IO.monoMsNow) - start)
      IO.println s!"Generation time: {elapsed} sec"
    return 0
  | .error e =>
    IO.eprintln s!"Error: {e.message}"
    return 1

end Main
end QueryBuilder

/-- The program. -/
def main (words : List String) : IO UInt32 :=
  match QueryBuilder.CommandLine.parse words with
  | .ok i => QueryBuilder.Main.execute i
  | .error e => QueryBuilder.Main.refuse e
