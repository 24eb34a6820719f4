/-!
# Hexadecimal digits

Numbers written in base sixteen: with as many digits as they need, in small letters, or with
exactly four digits, in capitals; and the value of a digit when reading.
-/

set_option autoImplicit false

namespace QueryBuilder
namespace Text

/-- The digit of a number below sixteen, in small letters. -/
def hexDigit (d : Nat) : Char :=
  if d < 10 then Char.ofNat (48 + d) else Char.ofNat (87 + d)

/-- The digit of a number below sixteen, in capitals. -/
def hexDigitUpper (d : Nat) : Char :=
  if d < 10 then Char.ofNat (48 + d) else Char.ofNat (55 + d)

/-- The shortest spelling of a number in base sixteen, in small letters. -/
def hexDigits (n : Nat) : List Char :=
  if n < 16 then [hexDigit n] else hexDigits (n / 16) ++ [hexDigit (n % 16)]
termination_by n
decreasing_by omega

/-- The last `width` digits of a number in base sixteen, in small letters. -/
def hexPadded : (width : Nat) → Nat → List Char
  | 0, _ => []
  | width + 1, n => hexPadded width (n / 16) ++ [hexDigit (n % 16)]

/-- The last four digits of a number in base sixteen, in capitals. -/
def hexFour (n : Nat) : List Char :=
  [hexDigitUpper (n / 4096 % 16), hexDigitUpper (n / 256 % 16), hexDigitUpper (n / 16 % 16),
    hexDigitUpper (n % 16)]

/-- The value of a digit in either case, `none` for any other character. -/
def hexValue? (c : Char) : Option Nat :=
  let n := c.toNat
  if 48 ≤ n ∧ n ≤ 57 then some (n - 48)
  else if 97 ≤ n ∧ n ≤ 102 then some (n - 87)
  else if 65 ≤ n ∧ n ≤ 70 then some (n - 55)
  else none

/-- The number that a list of digits spells, `none` if one of them is no digit. -/
def hexNumber? (cs : List Char) : Option Nat :=
  cs.foldlM (fun n c => (hexValue? c).map (n * 16 + ·)) 0

end Text
end QueryBuilder
