import QueryBuilder.Code.Line
import QueryBuilder.Code.Names
import QueryBuilder.Code.Unit

/-!
# The aliases of scalars

One unit declares every scalar: the built-in ones with fixed meanings, each custom scalar without
an override as a string, and the inline sources of overrides, each once however many scalars share
it.

* `Aliases.ofGraph` — what the unit declares.
* `Aliases.content` — its text.
-/

set_option autoImplicit false

namespace QueryBuilder
namespace Code

open Schema

/-- The types that the built-in scalars stand for. -/
def builtinAliases : List (String × String) := [
  ("Int", "i32"),
  ("Float", "f64"),
  ("String", "::std::string::String"),
  ("Boolean", "bool"),
  ("ID", "::std::string::String")]

/-- A scalar that stands for a string. -/
structure ScalarAlias where
  ident : String
  description? : Option String
  deriving Repr, DecidableEq

/-- What the aliases unit declares, the built-in scalars apart. -/
structure Aliases where
  scalars : List ScalarAlias
  /-- The inline sources of overrides. -/
  sources : List String
  deriving Repr, DecidableEq

namespace Aliases

/-- The custom scalars of a graph. -/
def customScalars (g : TypeGraph) : List (TypeId × NamedType) :=
  g.entries.filter fun (_, t) => t.kind == .scalar && !t.isBuiltinScalar

/-- The alias of a custom scalar, if no override gives it a source. -/
def aliasOf? (names : Names) (entry : TypeId × NamedType) : Option ScalarAlias :=
  match entry.2.scalarSource? with
  | none => some ⟨names.ident entry.1, entry.2.description?⟩
  | some _ => none

/-- The inline source of a custom scalar. -/
def inlineOf? (entry : TypeId × NamedType) : Option String :=
  match entry.2.scalarSource? with
  | some (.inline text) => some text
  | some (.file _) | none => none

/-- A list without repetitions, in the order of first occurrences. -/
def distinct (texts : List String) : List String :=
  texts.foldl (fun seen text => if seen.contains text then seen else seen ++ [text]) []

/-- What the aliases unit of a graph declares. -/
def ofGraph (g : TypeGraph) (names : Names) : Aliases where
  scalars := (customScalars g).filterMap (aliasOf? names)
  sources := distinct ((customScalars g).filterMap inlineOf?)

/-- The declarations of the built-in scalars. -/
def builtinLines : List Line :=
  builtinAliases.map fun (name, target) => line s!"pub type {name} = {target};"

/-- The declaration of a custom scalar. -/
def scalarLines (a : ScalarAlias) : List Line :=
  blank :: docLines a.description? ++ [line s!"pub type {a.ident} = ::std::string::String;"]

/-- The declarations of the unit. -/
def lines (a : Aliases) : List Line :=
  builtinLines ++ a.scalars.flatMap scalarLines

/-- The text of the unit. -/
def content (header : String) (a : Aliases) : String :=
  a.sources.foldl appendSource (printLines (headerLines header ++ a.lines))

end Aliases

end Code
end QueryBuilder
