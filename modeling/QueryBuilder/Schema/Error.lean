import QueryBuilder.Json.Decode
import QueryBuilder.Json.Fault
import QueryBuilder.Schema.Graph

/-!
# Schema errors

Why an introspection result gives no type graph, and the wording of each cause.
-/

set_option autoImplicit false

namespace QueryBuilder
namespace Schema

/-- What is wrong with the shape of an introspection result. -/
inductive FormatProblem where
  /-- The document is not an object. -/
  | notASchema
  /-- A value does not decode. -/
  | mismatch (m : Json.Mismatch)
  /-- A wrapper stands where a named type is declared. -/
  | wrapperDeclaration (kind : String)
  | register (e : RegisterError)
  /-- Two members of one owner have the same name. -/
  | duplicateMember (name : String)
  /-- An interface or possible type is wrapped. -/
  | wrappedMember
  /-- A non-null marker stands directly around another. -/
  | doubleNonNull
  /-- A reference to a named type has no name. -/
  | namelessReference (kind : TypeKind)
  /-- A wrapper has nothing inside. -/
  | emptyWrapper (kind : String)

/-- The wording of a problem. -/
def FormatProblem.message : FormatProblem → String
  | .notASchema => "expected an introspection schema object"
  | .mismatch m => m.message
  | .wrapperDeclaration kind => s!"wrapper kind `{kind}` cannot declare a named type"
  | .register e => e.message
  | .duplicateMember name => s!"duplicate member `{name}`"
  | .wrappedMember => "interfaces and possible types must be named types"
  | .doubleNonNull => "NON_NULL cannot wrap another NON_NULL"
  | .namelessReference kind => s!"{kind.tag} reference without a name"
  | .emptyWrapper kind => s!"{kind} reference without `ofType`"

/-- Why there is no type graph. -/
inductive SchemaError where
  /-- The text is not JSON. -/
  | json (e : Json.TextError)
  /-- The document does not have the shape of an introspection result. -/
  | format (location : String) (problem : FormatProblem)
  /-- A reference names a type that is not declared. -/
  | reference (referrer name : String)
  /-- A reference names a type of another kind. -/
  | kindMismatch (referrer name : String) (expected actual : TypeKind)
  /-- A kind tag is none of the known ones. -/
  | unknownKind (kind location : String)

/-- The coarse classification of schema errors. -/
inductive ErrorKind where
  | format
  | reference
  | unknownKind
  deriving Repr, DecidableEq

namespace SchemaError

/-- The class of an error. -/
def kind : SchemaError → ErrorKind
  | .json .. | .format .. => .format
  | .reference .. | .kindMismatch .. => .reference
  | .unknownKind .. => .unknownKind

/-- The wording of an error. -/
def message : SchemaError → String
  | .json e => s!"invalid schema JSON: {e.message}"
  | .format location problem => s!"invalid schema at `{location}`: {problem.message}"
  | .reference referrer name => s!"`{referrer}` references unknown type `{name}`"
  | .kindMismatch referrer name expected actual =>
    s!"`{referrer}` references `{name}` as {expected.tag}, but it is declared as {actual.tag}"
  | .unknownKind kind location => s!"unknown type kind `{kind}` at `{location}`"

end SchemaError

end Schema
end QueryBuilder
