import QueryBuilder.Code.Module
import QueryBuilder.Project.Config
import QueryBuilder.Schema.Resolve

/-!
# Generation runs

The whole way from a project directory to generated files: find the configuration, read the schema
it names, merge its overrides, generate the units, append the override files, and write.

* `discover`, `loadConfiguration`, `loadSchema` — the reading steps.
* `prepare` — everything up to writing.  It only reads, so a failure leaves all files alone.
* `writeUnits` — writes the units one after the other.
* `generate` — the run.
-/

set_option autoImplicit false

namespace QueryBuilder
namespace Project

/-- An action that may fail. -/
abbrev Run (m : Type → Type) := ExceptT Failure m

/-- What a run is about to write. -/
structure Plan where
  /-- The configuration that is used. -/
  config : Path
  output : Code.Output
  /-- The overrides that were not applied. -/
  skipped : List (String × Schema.SkipReason)
  /-- The number of override files that were appended. -/
  appended : Nat

/-- What a run did. -/
structure Summary where
  config : Path
  /-- The files that were written, in order. -/
  written : List Path
  skipped : List (String × Schema.SkipReason)
  appended : Nat

variable {m : Type → Type} [Monad m] (fs : FileSystem m)

/-! ## Reading -/

/-- The text of a file. -/
def readFile (path : Path) : Run m String :=
  ExceptT.mk do return (← fs.readText path).mapError (.read path)

/-- The only configuration file in a directory. -/
def discover (root : Path) : Run m Path := do
  let entries ← ExceptT.mk do return (← fs.list root).mapError (.read root)
  ExceptT.mk (pure (chooseConfig root entries))

/-- The configuration in a file. -/
def loadConfiguration (path : Path) : Run m Configuration := do
  let text ← readFile fs path
  ExceptT.mk (pure ((Configuration.parse text).mapError (.invalidConfig path)))

/-- The graph of the schema in a file. -/
def loadSchema (path : Path) : Run m Schema.TypeGraph := do
  let text ← readFile fs path
  ExceptT.mk (pure ((Schema.ofText text).mapError .schema))

/-- The units of a graph with the overrides of a configuration merged into it, and the override
files appended. -/
def buildOutput (options : Code.Options) (overrides : List Schema.Override)
    (g : Schema.TypeGraph) : Run m (Code.Output × Nat) := do
  let (output, appended) ←
    ExceptT.lift ((Code.generate g options).appendFiles (fun p => (readFile fs p).run) g overrides)
  return (output, ← ExceptT.mk (pure appended))

/-- The directory of a file. -/
def directoryOf (path : Path) : Path :=
  path.parent?.getD ⟨"."⟩

/-- Everything up to writing. -/
def prepare (root : Path) (config? : Option Path) : Run m Plan := do
  let config ← match config? with
    | some path => pure path
    | none => discover fs root
  let configuration ← loadConfiguration fs config
  let base := directoryOf config
  let schemaPath ← ExceptT.mk (pure (configuration.schemaPath base))
  let graph ← loadSchema fs schemaPath
  let overrides ← ExceptT.mk (pure (configuration.scalarOverrides base))
  let (graph, report) := Schema.Override.merge overrides graph
  let (output, appended) ← buildOutput fs configuration.codeOptions overrides graph
  return { config, output, skipped := report.skipped, appended }

/-! ## Writing -/

/-- Writes a unit into a directory. -/
def writeUnit (directory : Path) (u : Code.CodeUnit) : Run m Path := do
  let path := directory.join u.path
  ExceptT.mk do return (← fs.writeText path u.content).mapError (.write path)
  return path

/-- Writes units into a directory, one after the other. -/
def writeUnits (directory : Path) : List Code.CodeUnit → Run m (List Path)
  | [] => return []
  | u :: rest => do
    let path ← writeUnit fs directory u
    return path :: (← writeUnits directory rest)

/-- Writes what was prepared into a directory, which is created if it is missing. -/
def writePlan (directory : Path) (plan : Plan) : Run m Summary := do
  ExceptT.mk do return (← fs.createDirectories directory).mapError (.write directory)
  let written ← writeUnits fs directory plan.output.units
  return { config := plan.config, written, skipped := plan.skipped, appended := plan.appended }

/-- Runs the whole pipeline.  Nothing is written unless every earlier step succeeds. -/
def generate (root directory : Path) (config? : Option Path) : Run m Summary := do
  writePlan fs directory (← prepare fs root config?)

end Project
end QueryBuilder
