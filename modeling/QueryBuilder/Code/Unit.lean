import QueryBuilder.Schema.Override

/-!
# Units of generated code

* `CodeUnit` — one generated file: what it contains, its path below the output directory, and its
  text.
* `CodeUnit.append` — adds source to a unit, with an empty line before it.
* `Output` — the units of one run, in order.
* `Output.appendFiles` — adds the override files that are in effect to the aliases unit.  It stops
  at the first file that cannot be loaded and keeps what was added before.
-/

set_option autoImplicit false

namespace QueryBuilder
namespace Code

/-- What a unit contains. -/
inductive UnitKind where
  /-- The root of the module, which declares every other unit. -/
  | module
  /-- The aliases of scalars and the sources of overrides. -/
  | aliases
  | object
  | interface
  | union
  | enum
  | inputObject
  deriving Repr, DecidableEq

/-- One generated file. -/
structure CodeUnit where
  kind : UnitKind
  /-- The path below the output directory. -/
  path : Path
  content : String
  deriving Repr, DecidableEq

/-- Whether a text ends in a line break. -/
def endsInNewline (s : String) : Bool :=
  s.toList.getLast? == some '\n'

/-- A text with a line break at its end. -/
def closeLine (s : String) : String :=
  if endsInNewline s then s else s ++ "\n"

/-- A text with source added to it, an empty line between the two. -/
def appendSource (content source : String) : String :=
  closeLine ((if content.isEmpty then "" else closeLine content) ++ "\n" ++ source)

/-- Adds source to a unit. -/
def CodeUnit.append (u : CodeUnit) (source : String) : CodeUnit :=
  { u with content := appendSource u.content source }

/-- The units of one run, in order. -/
structure Output where
  units : List CodeUnit
  deriving Repr, DecidableEq

namespace Output

/-- The aliases unit. -/
def aliases? (o : Output) : Option CodeUnit :=
  o.units.find? (fun u => u.kind == .aliases)

/-- The units of a kind. -/
def ofKind (o : Output) (kind : UnitKind) : List CodeUnit :=
  o.units.filter (fun u => u.kind == kind)

/-- The unit with a path, however the path is written. -/
def unit? (o : Output) (path : Path) : Option CodeUnit :=
  o.units.find? (fun u => u.path.same path)

/-- Adds source to the aliases unit. -/
def appendToAliases (o : Output) (source : String) : Output :=
  ⟨o.units.map fun u => if u.kind = .aliases then u.append source else u⟩

/-- Adds the files to the aliases unit, one after the other.  An error of the loader ends the run;
the output then holds what was added before. -/
def appendAll {m : Type → Type} [Monad m] {ε : Type} (load : Path → m (Except ε String)) :
    Output → List Path → m (Output × Except ε Unit)
  | o, [] => pure (o, .ok ())
  | o, path :: rest => do
    match ← load path with
    | .error e => return (o, .error e)
    | .ok source => appendAll load (o.appendToAliases source) rest

/-- Adds the override files that are in effect in a merged graph to the aliases unit, each once.
The answer is the number of files. -/
def appendFiles {m : Type → Type} [Monad m] {ε : Type} (load : Path → m (Except ε String))
    (o : Output) (g : Schema.TypeGraph) (overrides : List Schema.Override) :
    m (Output × Except ε Nat) := do
  let files := Schema.effectiveFiles overrides g
  let (o, result) ← appendAll load o files
  return (o, result.map fun () => files.length)

end Output

end Code
end QueryBuilder
