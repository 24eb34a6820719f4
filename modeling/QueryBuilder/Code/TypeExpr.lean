import QueryBuilder.Schema.Graph

/-!
# Types of generated code

A reference of the schema becomes a type of the generated source: what may be null is optional,
lists become vectors, and a member that would contain itself by value is boxed.
-/

set_option autoImplicit false

namespace QueryBuilder
namespace Code

open Schema

/-- A type of generated source. -/
inductive TypeExpr where
  | named (ident : String)
  | option (inner : TypeExpr)
  | vec (item : TypeExpr)
  | boxed (inner : TypeExpr)
  deriving Repr, DecidableEq

namespace TypeExpr

/-- The text of a type. -/
def print : TypeExpr → String
  | .named ident => ident
  | .option inner => "Option<" ++ inner.print ++ ">"
  | .vec item => "Vec<" ++ item.print ++ ">"
  | .boxed inner => "Box<" ++ inner.print ++ ">"

/-- The identifier at the bottom of a type. -/
def ident : TypeExpr → String
  | .named ident => ident
  | .option inner | .vec inner | .boxed inner => inner.ident

/-- A type that is optional if it may be null. -/
def nullableIf (nullable : Bool) (t : TypeExpr) : TypeExpr :=
  if nullable then .option t else t

/-- The type of a reference.  `nullable` says whether no non-null marker stands around it, and
`box` whether a named type that no list wraps is boxed. -/
def ofRefIn (identOf : TypeId → String) (nullable box : Bool) : TypeRef → TypeExpr
  | .nonNull inner => ofRefIn identOf false box inner
  | .list inner => nullableIf nullable (.vec (ofRefIn identOf true false inner))
  | .named id =>
    nullableIf nullable (if box then .boxed (.named (identOf id)) else .named (identOf id))

/-- The type of a reference. -/
def ofRef (identOf : TypeId → String) (box : Bool) (ref : TypeRef) : TypeExpr :=
  ofRefIn identOf true box ref

end TypeExpr

end Code
end QueryBuilder
