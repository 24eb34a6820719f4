import QueryBuilder.Decimal.Shortest

/-!
# Layouts of decimal numbers

How the digits of `QueryBuilder.Decimal.shortest` are written down:

* `plain` — always positional, whole numbers without a point, ties upwards (query literals);
* `scientific` — positional between `10 ^ -5` and `10 ^ 16`, with an exponent outside, whole
  numbers end in `.0`, and ties go to the even digit (JSON documents and messages).
-/

set_option autoImplicit false

namespace QueryBuilder
namespace Decimal

/-- Digits with the point after the first `point` of them, zeros filling the gap on either side.
A whole number gets the ending `whole`. -/
def positional (whole : String) (d : Digits) : String :=
  let ds := Nat.toDigits 10 d.digits
  let point : Int := ds.length + d.power
  if 0 ≤ d.power then
    String.ofList (ds ++ List.replicate d.power.toNat '0') ++ whole
  else if 0 < point then
    String.ofList (ds.take point.toNat) ++ "." ++ String.ofList (ds.drop point.toNat)
  else
    "0." ++ String.ofList (List.replicate (-point).toNat '0' ++ ds)

/-- Digits with the point after the first of them, and an exponent that always has a sign or is
negative. -/
def exponential (d : Digits) : String :=
  let ds := Nat.toDigits 10 d.digits
  let exponent : Int := ds.length + d.power - 1
  let fraction := ds.drop 1
  String.ofList (ds.take 1)
    ++ (if fraction.isEmpty then "" else "." ++ String.ofList fraction)
    ++ (if 0 ≤ exponent then s!"e+{exponent}" else s!"e{exponent}")

/-- The sign of a double, and the layout of its magnitude; zero is laid out by itself. -/
def signed (tie : Tie) (zero : String) (layout : Digits → String) (x : Float) : String :=
  let bits := x.toBits
  let magnitude :=
    if bits.toNat % Nat.pow 2 63 = 0 then zero else layout (shortest tie (Binary.ofBits bits))
  if bits.toNat < Nat.pow 2 63 then magnitude else "-" ++ magnitude

/-- The shortest digits, never with an exponent: `1`, `0.25`, `-0`. -/
def plain (x : Float) : String :=
  signed .up "0" (positional "") x

/-- The shortest digits, with an exponent below `10 ^ -5` and from `10 ^ 16` on: `1.0`, `1e+300`. -/
def scientific (x : Float) : String :=
  signed .even "0.0" (fun d =>
    let point : Int := (Nat.toDigits 10 d.digits).length + d.power
    if -5 < point ∧ point ≤ 16 then positional ".0" d else exponential d) x

end Decimal
end QueryBuilder
