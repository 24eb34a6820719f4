import QueryBuilder.Name.Case
import QueryBuilder.Name.Fresh
import QueryBuilder.Name.Keyword

/-!
# Scopes of identifiers

A `Scope` hands out identifiers that do not collide within one namespace of the generated code.  It
remembers the identifiers in use before keywords are escaped, so that `type` and `r#type` count as
one name.

* `Scope.reserve` — takes a name without handing it out.
* `Scope.claim` — turns a name into the scope's case and makes it unique with a number: `name_2`,
  `name_3` in snake case, `Name2`, `Name3` otherwise.
* `Scope.claimAll` — claims a list of names in order.
-/

set_option autoImplicit false

namespace QueryBuilder
namespace Name

/-- The identifiers in use in one namespace, and the convention that new ones follow. -/
structure Scope where
  convention : Case
  taken : List String
  deriving Repr, DecidableEq

namespace Scope

/-- The scope in which nothing but the reserved names is in use. -/
def ofReserved (convention : Case) (reserved : List String) : Scope :=
  ⟨convention, reserved⟩

/-- Takes a name as it is, without handing it out. -/
def reserve (scope : Scope) (name : String) : Scope :=
  { scope with taken := name :: scope.taken }

/-- Whether a name, in the scope's case, is in use. -/
def contains (scope : Scope) (name : String) : Bool :=
  scope.taken.contains (scope.convention.apply name)

/-- What stands between a name and the number that makes it unique. -/
def separator : Case → String
  | .snake => "_"
  | .pascal | .verbatim => ""

/-- The identifiers tried for a name: the name itself, then with the numbers from two on. -/
def candidate (convention : Case) (base : String) : Nat → String
  | 0 => base
  | n + 1 => base ++ separator convention ++ toString (n + 2)

/-- The identifier that a name gets, before keywords are escaped. -/
def free (scope : Scope) (name : String) : String :=
  fresh scope.taken (candidate scope.convention (scope.convention.apply name))

/-- Hands out a unique identifier for a name. -/
def claim (scope : Scope) (name : String) : String × Scope :=
  (escape (scope.free name), scope.reserve (scope.free name))

/-- Hands out identifiers for a list of names, one after the other. -/
def claimAll (scope : Scope) : List String → List String × Scope
  | [] => ([], scope)
  | name :: rest =>
    let (ident, scope) := scope.claim name
    let (idents, scope) := claimAll scope rest
    (ident :: idents, scope)

end Scope

end Name
end QueryBuilder
