import QueryBuilder.Json.Reader

/-!
# Reading JSON numbers

A number without fraction and exponent that fits 64 bits is read exactly.  Every other number
becomes a double in a fixed way: the leading digits, as many as fit 64 bits, are rounded to a
double and then multiplied or divided by a power of ten.  Two roundings may differ from the
nearest double in the last place; the value is part of what a document means here, so the steps
are the definition.

* `Number` — an exact whole number or a double.
* `Reader.number` — a number behind its sign.
* `Reader.skipNumber` — a number whose value does not matter, under slightly other rules for what
  is at fault.
-/

set_option autoImplicit false

namespace QueryBuilder
namespace Json

/-- A number of a JSON text. -/
inductive Number where
  | int (n : Int)
  | float (x : Float)

/-- The value of a number. -/
def Number.toJson : Number → Json
  | .int n => .int n
  | .float x => .float x

/-- The greatest digits that are kept exactly. -/
def maxSignificand : Nat := UInt64.size - 1

/-- The value of a digit. -/
def digitValue (c : Char) : Nat :=
  c.toNat - 48

/-- Appends digits to a number as long as it fits 64 bits.  The second component is the number of
digits that were left over. -/
def appendDigits : Nat → List Char → Nat × Nat
  | n, [] => (n, 0)
  | n, d :: ds =>
    let m := n * 10 + digitValue d
    if m ≤ maxSignificand then appendDigits m ds else (n, (d :: ds).length)

/-- The double next to a power of ten. -/
def powerOfTen (n : Nat) : Float :=
  Float.ofScientific 1 false n

/-- Multiplies a double by a power of ten; `none` if the result is out of range.  Powers beyond
`10 ^ 308` are not doubles, so a smaller one is divided out first, `steps` times at most. -/
def scale : (steps : Nat) → Float → Int → Option Float
  | 0, x, _ => some x
  | steps + 1, x, exponent =>
    if exponent.natAbs ≤ 308 then
      if 0 ≤ exponent then
        let y := x * powerOfTen exponent.natAbs
        if y.isInf then none else some y
      else some (x / powerOfTen exponent.natAbs)
    else if x == 0 then some x
    else if 0 ≤ exponent then none
    else scale steps (x / powerOfTen 308) (exponent + 308)

namespace Reader

/-- The double with a sign, leading digits and a power of ten. -/
def double (positive : Bool) (significand : Nat) (exponent : Int) : Reader Number := do
  match scale 4 significand.toUInt64.toFloat exponent with
  | some x => return .float (if positive then x else -x)
  | none => failHere .numberOutOfRange

/-- Consumes digits of an exponent as long as it fits 31 bits; `none` if it does not. -/
def exponentDigits : (steps : Nat) → Nat → Reader (Option Nat)
  | 0, n => return some n
  | steps + 1, n => do
    match ← peek? with
    | none => return some n
    | some c =>
      if c.isDigit then
        skip
        let m := n * 10 + digitValue c
        if m < 2 ^ 31 then exponentDigits steps m else return none
      else return some n

/-- The exponent and what it makes of the digits before it, whose last stands for `10 ^ start`. -/
def exponentPart (positive : Bool) (significand : Nat) (start : Int) : Reader Number := do
  skip
  let sign ← peek?
  if sign == some '+' || sign == some '-' then skip
  let positiveExponent := sign != some '-'
  match ← peek? with
  | none => failHere .endInValue
  | some c =>
    if !c.isDigit then failNext .invalidNumber
    skip
    match ← exponentDigits (← bound) (digitValue c) with
    | some e => double positive significand (if positiveExponent then start + e else start - e)
    | none =>
      if significand ≠ 0 ∧ positiveExponent then failHere .numberOutOfRange
      let _ ← takeDigits
      return .float (if positive then 0.0 else -0.0)

/-- What follows the last digit of a double: an exponent or nothing. -/
def doubleEnd (positive : Bool) (significand : Nat) (exponent : Int) : Reader Number := do
  match ← peek? with
  | some 'e' | some 'E' => exponentPart positive significand exponent
  | _ => double positive significand exponent

/-- The fraction behind the digits `significand`, of which `dropped` did not fit. -/
def fractionPart (positive : Bool) (significand dropped : Nat) : Reader Number := do
  skip
  match ← takeDigits with
  | [] => failNext (if (← peek?).isNone then .endInValue else .invalidNumber)
  | digits =>
    let (significand, left) := appendDigits significand digits
    doubleEnd positive significand (dropped - (digits.length - left : Nat))

/-- A number behind its sign. -/
def number (positive : Bool) : Reader Number := do
  match ← peek? with
  | none => failHere .endInValue
  | some c =>
    if !c.isDigit then failNext .invalidNumber
    let digits ← if c = '0' then skip *> pure ['0'] else takeDigits
    let (significand, dropped) := appendDigits 0 digits
    match ← peek? with
    | some '.' => fractionPart positive significand dropped
    | some 'e' | some 'E' => exponentPart positive significand dropped
    | next =>
      if c = '0' && next.any Char.isDigit then failNext .invalidNumber
      if dropped ≠ 0 then double positive significand dropped
      else if positive then return .int significand
      else if significand = 0 ∨ Nat.pow 2 63 < significand then
        return .float (-significand.toUInt64.toFloat)
      else return .int (-significand)

/-- Passes over an exponent. -/
def skipExponent : Reader Unit := do
  skip
  let sign ← peek?
  if sign == some '+' || sign == some '-' then skip
  if (← takeDigits).isEmpty then failNext .invalidNumber

/-- Passes over a number behind its sign. -/
def skipNumber : Reader Unit := do
  match ← peek? with
  | some '0' =>
    skip
    if (← peek?).any Char.isDigit then failNext .invalidNumber
  | _ => if (← takeDigits).isEmpty then failNext .invalidNumber
  if (← peek?) == some '.' then
    skip
    if (← takeDigits).isEmpty then failNext .invalidNumber
  let next ← peek?
  if next == some 'e' || next == some 'E' then skipExponent

end Reader

end Json
end QueryBuilder
