import QueryBuilder.Query.Selection

/-!
# Operations

A selection set on one of the root types, ready to be sent: a query, a mutation or a subscription,
with or without a name.
-/

set_option autoImplicit false

namespace QueryBuilder
namespace Query

/-- What an operation does. -/
inductive OperationKind where
  | query
  | mutation
  | subscription
  deriving Repr, DecidableEq

/-- The keyword of a kind of operation. -/
def OperationKind.keyword : OperationKind → String
  | .query => "query"
  | .mutation => "mutation"
  | .subscription => "subscription"

/-- A complete operation. -/
structure Operation where
  kind : OperationKind
  name? : Option String
  selection : SelectionSet

/-- The text of an operation. -/
def Operation.render (o : Operation) : String :=
  o.kind.keyword
    ++ (match o.name? with
        | none => ""
        | some name => " " ++ name)
    ++ " " ++ o.selection.render

end Query
end QueryBuilder
