import QueryBuilder.Project.FileSystem
import QueryBuilder.Schema.Error

/-!
# Failures of a run

Why a generation run ends early: the wording of each cause, its code, and advice where there is
some.
-/

set_option autoImplicit false

namespace QueryBuilder
namespace Project

/-- Why a run fails. -/
inductive Failure where
  /-- The project directory has no configuration file. -/
  | configNotFound (root : Path)
  /-- The project directory has several configuration files. -/
  | multipleConfigs (paths : List Path)
  /-- The configuration cannot be read. -/
  | invalidConfig (path : Path) (e : Json.TextError)
  /-- The configuration names no schema. -/
  | noSchemaLocation
  /-- The configuration names a schema that is not a file. -/
  | remoteSchema (url : String)
  /-- A scalar of the configuration has no source, or two. -/
  | invalidScalar (name : String)
  | read (path : Path) (e : FileError)
  | write (path : Path) (e : FileError)
  | schema (e : Schema.SchemaError)

namespace Failure

/-- The wording of a failure. -/
def message : Failure → String
  | .configNotFound root => s!"no .gryphin configuration file found in {root.text}"
  | .multipleConfigs paths =>
    "multiple configuration files found: " ++ ", ".intercalate (paths.map (·.text))
  | .invalidConfig path e => s!"invalid configuration in {path.text}: {e.message}"
  | .noSchemaLocation => "configuration must provide a schema path"
  | .remoteSchema url => s!"remote schemas are not supported: {url}"
  | .invalidScalar name => s!"scalar `{name}` must set exactly one of `file` or `source`"
  | .read path e => s!"failed to read {path.text}: {e.message}"
  | .write path e => s!"failed to write {path.text}: {e.message}"
  | .schema e => s!"invalid schema: {e.message}"

/-- The code of a failure. -/
def code : Failure → String
  | .configNotFound .. => "gryphin::config::not_found"
  | .multipleConfigs .. => "gryphin::config::ambiguous"
  | .invalidConfig .. => "gryphin::config::invalid"
  | .noSchemaLocation => "gryphin::config::no_schema"
  | .remoteSchema .. => "gryphin::config::remote_schema"
  | .invalidScalar .. => "gryphin::config::scalar"
  | .read .. => "gryphin::io::read"
  | .write .. => "gryphin::io::write"
  | .schema .. => "gryphin::schema"

/-- What a user can do about a failure. -/
def help? : Failure → Option String
  | .configNotFound .. => some "create a configuration file named .gryphin in the project root"
  | .multipleConfigs .. => some "keep exactly one configuration file"
  | .noSchemaLocation => some "set `schema.path` to an introspection JSON file"
  | .remoteSchema .. =>
    some "download the introspection result and set `schema.path` instead"
  | .read .. =>
    some ("paths resolve against the configuration directory; an unreadable scalar "
      ++ "override file stops generation instead of being skipped, so fix its path "
      ++ "or remove the entry")
  | .invalidConfig .. | .invalidScalar .. | .write .. | .schema .. => none

end Failure

end Project
end QueryBuilder
