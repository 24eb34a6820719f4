/-!
# The shortest decimal of a binary number

A finite double is `mantissa · 2 ^ power`.  Every real number closer to it than to its neighbours
reads back as the same double, so among the decimals in that interval one with the fewest digits
can be printed.

* `Interval` — the double and the two ends of its interval, as numerators over one denominator.
* `Tie` — which of two decimals at the same distance is taken.
* `Interval.multiple?` — the multiple of a power of ten that lies in the interval and is nearest to
  the double, if the interval holds one.  It suffices to look at the two multiples next to the
  double.
* `shortest` — the answer for the greatest power of ten that gives one: no decimal in the
  interval has fewer digits, and none with as many is nearer.
-/

set_option autoImplicit false

namespace QueryBuilder
namespace Decimal

/-- A positive double as `mantissa · 2 ^ power`, and whether its lower neighbour lies at half the
usual distance, as it does at a power of two. -/
structure Binary where
  mantissa : Nat
  power : Int
  narrowBelow : Bool
  deriving Repr, DecidableEq

/-- The magnitude of a finite double that is not zero, read off its bits. -/
def Binary.ofBits (bits : UInt64) : Binary :=
  let fraction := bits.toNat % Nat.pow 2 52
  let exponent : Nat := bits.toNat / Nat.pow 2 52 % Nat.pow 2 11
  if exponent = 0 then ⟨fraction, -1074, false⟩
  else
    ⟨fraction + Nat.pow 2 52, (exponent : Int) - 1075, fraction == 0 && decide (1 < exponent)⟩

/-- A number and the reals that round to it, as numerators over one denominator. -/
structure Interval where
  low : Nat
  value : Nat
  high : Nat
  denominator : Nat
  /-- Whether the ends belong to the interval. -/
  closed : Bool
  deriving Repr, DecidableEq

/-- The reals that round to a binary number.  The ends round to the even mantissa. -/
def Interval.ofBinary (b : Binary) : Interval :=
  let unit := Nat.pow 2 (b.power - 2).toNat
  { low := (4 * b.mantissa - if b.narrowBelow then 1 else 2) * unit
    value := 4 * b.mantissa * unit
    high := (4 * b.mantissa + 2) * unit
    denominator := Nat.pow 2 (2 - b.power).toNat
    closed := b.mantissa % 2 == 0 }

/-- Whether `n · 10 ^ power` lies in the interval. -/
def Interval.holds (i : Interval) (power : Int) (n : Nat) : Bool :=
  let scaled := n * Nat.pow 10 power.toNat * i.denominator
  let low := i.low * Nat.pow 10 (-power).toNat
  let high := i.high * Nat.pow 10 (-power).toNat
  if i.closed then decide (low ≤ scaled) && decide (scaled ≤ high)
  else decide (low < scaled) && decide (scaled < high)

/-- Which of two neighbouring multiples is taken if both are equally near. -/
inductive Tie where
  /-- The even multiple. -/
  | even
  /-- The greater multiple. -/
  | up
  deriving Repr, DecidableEq

/-- The multiple that a tie between `below` and its successor goes to. -/
def Tie.choose (tie : Tie) (below : Nat) : Nat :=
  match tie with
  | .even => if below % 2 = 0 then below else below + 1
  | .up => below + 1

/-- The multiple of `10 ^ power` in the interval that is nearest to its value. -/
def Interval.multiple? (i : Interval) (tie : Tie) (power : Int) : Option Nat :=
  let num := i.value * Nat.pow 10 (-power).toNat
  let den := i.denominator * Nat.pow 10 power.toNat
  let below := num / den
  let above := below + 1
  match i.holds power below, i.holds power above with
  | false, false => none
  | true, false => some below
  | false, true => some above
  | true, true =>
    let twice := 2 * num
    let middle := (below + above) * den
    if twice < middle then some below
    else if middle < twice then some above
    else some (tie.choose below)

/-- A positive decimal: `digits · 10 ^ power`, and `digits` does not end in zero. -/
structure Digits where
  digits : Nat
  power : Int
  deriving Repr, DecidableEq

/-- Moves the zeros at the end of the digits into the power. -/
def Digits.normal (fuel : Nat) (digits : Nat) (power : Int) : Digits :=
  match fuel with
  | 0 => ⟨digits, power⟩
  | fuel + 1 =>
    if digits ≠ 0 ∧ digits % 10 = 0 then Digits.normal fuel (digits / 10) (power + 1)
    else ⟨digits, power⟩

/-- A power of ten above the number: its binary logarithm times a bound of `log 2`. -/
def Binary.powerAbove (b : Binary) : Int :=
  (b.power + b.mantissa.log2 + 1) * 30103 / 100000 + 1

/-- The shortest decimal that reads back as the number, and of those the nearest to it. -/
def shortest (tie : Tie) (b : Binary) : Digits :=
  let interval := Interval.ofBinary b
  let top := b.powerAbove
  let found := (List.range 24).findSome? fun (k : Nat) =>
    (interval.multiple? tie (top - k)).map fun n => (n, top - (k : Int))
  match found with
  | some (n, power) => Digits.normal 24 n power
  | none => ⟨b.mantissa, b.power⟩

end Decimal
end QueryBuilder
