import QueryBuilder.Code.Options
import QueryBuilder.Json.Record
import QueryBuilder.Project.Error
import QueryBuilder.Schema.Override

/-!
# Configurations

The configuration of a project names its schema, the sources of its custom scalars, and the choices
about generated code.  Relative paths are seen from the directory of the configuration.

* `Configuration.parse` — reads a configuration.
* `Configuration.schemaPath`, `scalarOverrides`, `codeOptions` — what it says.
-/

set_option autoImplicit false

namespace QueryBuilder
namespace Project

/-- Where the schema is. -/
structure SchemaLocation where
  path? : Option Path
  url? : Option String
  deriving Repr, DecidableEq

/-- The source of a custom scalar. -/
structure ScalarEntry where
  name : String
  file? : Option Path
  source? : Option String
  deriving Repr, DecidableEq

/-- The choices about generated code. -/
structure GenerateOptions where
  includeIntrospection : Bool
  /-- Replaces the header of units. -/
  header? : Option String
  deriving Repr, DecidableEq

/-- The configuration of a project. -/
structure Configuration where
  schema : SchemaLocation
  scalars : List ScalarEntry
  options : GenerateOptions
  deriving Repr, DecidableEq

/-! ## Reading -/

open Json (Reader Slot)

/-- Reads a path. -/
def readPath : Reader Path :=
  Path.mk <$> Reader.string "path string"

/-- Reads a text. -/
def readText : Reader String :=
  Reader.string "a string"

/-- Reads where the schema is. -/
def SchemaLocation.read : Reader SchemaLocation :=
  Reader.record "struct SchemaLocation"
    [⟨"path", .optional, fun s => do return { s with path? := ← Reader.option readPath }⟩,
      ⟨"url", .optional, fun s => do return { s with url? := ← Reader.option readText }⟩]
    ⟨none, none⟩

/-- Reads the source of a custom scalar. -/
def ScalarEntry.read : Reader ScalarEntry :=
  Reader.record "struct ScalarEntry"
    [⟨"name", .required, fun s => do return { s with name := ← readText }⟩,
      ⟨"file", .optional, fun s => do return { s with file? := ← Reader.option readPath }⟩,
      ⟨"source", .optional, fun s => do return { s with source? := ← Reader.option readText }⟩]
    ⟨"", none, none⟩

/-- The choices of a configuration that makes none. -/
def GenerateOptions.default : GenerateOptions := ⟨false, none⟩

/-- Reads the choices about generated code. -/
def GenerateOptions.read : Reader GenerateOptions :=
  Reader.record "struct GenerateOptions"
    [⟨"includeIntrospectionTypes", .defaulted, fun s => do
        return { s with includeIntrospection := ← Reader.bool }⟩,
      ⟨"header", .defaulted, fun s => do
        return { s with header? := ← Reader.option readText }⟩]
    .default

/-- The configuration that says nothing. -/
def Configuration.empty : Configuration := ⟨⟨none, none⟩, [], .default⟩

/-- Reads a configuration. -/
def Configuration.read : Reader Configuration :=
  Reader.record "struct Configuration"
    [⟨"schema", .defaulted, fun s => do return { s with schema := ← SchemaLocation.read }⟩,
      ⟨"scalars", .defaulted, fun s => do
        return { s with scalars := ← Reader.list ScalarEntry.read }⟩,
      ⟨"options", .defaulted, fun s => do return { s with options := ← GenerateOptions.read }⟩]
    .empty

namespace Configuration

/-- The configuration that a text holds. -/
def parse (text : String) : Except Json.TextError Configuration :=
  Configuration.read.run text

/-! ## Meaning -/

/-- The file of the schema, seen from a directory. -/
def schemaPath (c : Configuration) (base : Path) : Except Failure Path :=
  match c.schema.path?, c.schema.url? with
  | some path, _ => .ok (base.join path)
  | none, some url => .error (.remoteSchema url)
  | none, none => .error .noSchemaLocation

/-- The override that an entry says, its file seen from a directory. -/
def override (base : Path) (entry : ScalarEntry) : Except Failure Schema.Override :=
  match entry.file?, entry.source? with
  | some file, none => .ok ⟨entry.name, .file (base.join file)⟩
  | none, some text => .ok ⟨entry.name, .inline text⟩
  | _, _ => .error (.invalidScalar entry.name)

/-- The overrides of custom scalars, in order. -/
def scalarOverrides (c : Configuration) (base : Path) : Except Failure (List Schema.Override) :=
  c.scalars.mapM (override base)

/-- The choices about generated code. -/
def codeOptions (c : Configuration) : Code.Options :=
  ⟨c.options.includeIntrospection, c.options.header?.getD Code.defaultHeader⟩

end Configuration

/-! ## Finding the configuration -/

/-- The name of configuration files. -/
def configName : String := ".gryphin"

/-- Whether a file is a configuration by its name: `.gryphin`, or that and an ending. -/
def isConfigName (name : String) : Bool :=
  name == configName
    || (configName.toList ++ ['.']).isPrefixOf name.toList
      && decide (configName.length + 1 < name.length)

/-- The configuration files among the entries of a directory, sorted. -/
def configFiles (root : Path) (entries : List DirEntry) : List Path :=
  let files := entries.filter fun e => e.isFile && isConfigName e.name
  ((files.map (·.name)).mergeSort fun a b => decide (a ≤ b)).map fun name => root.join ⟨name⟩

/-- The only configuration file among the entries of a directory. -/
def chooseConfig (root : Path) (entries : List DirEntry) : Except Failure Path :=
  match configFiles root entries with
  | [] => .error (.configNotFound root)
  | [path] => .ok path
  | paths => .error (.multipleConfigs paths)

end Project
end QueryBuilder
