import QueryBuilder.Schema.Graph

/-!
# What is generated

The choices a user has about generated code, and which types get a unit of their own under them.
-/

set_option autoImplicit false

namespace QueryBuilder
namespace Code

open Schema

/-- The header of units for which no other is chosen. -/
def defaultHeader : String := "// Generated by Gryphin. Do not edit."

/-- Choices about generated code. -/
structure Options where
  /-- Whether the types that describe schemas themselves are generated too. -/
  includeIntrospection : Bool
  /-- The comment at the top of each unit; empty for none. -/
  header : String
  deriving Repr, DecidableEq

/-- The choices of a user who makes none. -/
def Options.default : Options := ⟨false, defaultHeader⟩

/-- Whether a type gets a unit of its own.  Scalars never do. -/
def Options.emits (options : Options) (t : NamedType) : Bool :=
  t.kind != .scalar && (options.includeIntrospection || !t.isIntrospection)

end Code
end QueryBuilder
