/-!
# Fresh names

Several parts of the library need a name that is not taken yet, and try a sequence of candidates
for it: `name`, `name_2`, `name_3`, … for identifiers, `__alias_4`, `__alias_5`, … for response
keys.  Among one candidate more than there are taken names, one is free as soon as the candidates
differ, so a search over that many is enough and needs no other bound.
-/

set_option autoImplicit false

namespace QueryBuilder
namespace Name

/-- The number of the first candidate that is not taken. -/
def freshIndex (taken : List String) (candidate : Nat → String) : Nat :=
  ((List.range (taken.length + 1)).find? fun i => !taken.contains (candidate i)).getD taken.length

/-- The first candidate that is not taken. -/
def fresh (taken : List String) (candidate : Nat → String) : String :=
  candidate (freshIndex taken candidate)

end Name
end QueryBuilder
