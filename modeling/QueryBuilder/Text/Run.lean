/-!
# Runs of code points

The character properties of this library are tables of *runs*: evenly spaced code points, given
by the first, the last and the distance between neighbours.  Alternating capital and small
letters, as most alphabets beyond ASCII have them, are runs of distance two, and an unbroken range
is a run of distance one.

* `Run.contains` — membership of a code point in a run, by arithmetic and not by listing.
* `Run.anyContains` — membership in a table.
-/

set_option autoImplicit false

namespace QueryBuilder
namespace Text

/-- The code points `first`, `first + step`, … up to `last`. -/
structure Run where
  first : Nat
  last : Nat
  step : Nat
  deriving Repr, DecidableEq

namespace Run

/-- Whether a code point is one of those the run steps on. -/
def contains (r : Run) (n : Nat) : Bool :=
  decide (r.first ≤ n) && decide (n ≤ r.last) && (n - r.first) % r.step == 0

/-- Whether some run of a table contains the code point. -/
def anyContains (table : List Run) (n : Nat) : Bool :=
  table.any (·.contains n)

end Run

end Text
end QueryBuilder
