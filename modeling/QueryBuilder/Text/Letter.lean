import QueryBuilder.Text.LetterTable

/-!
# Letter case

Whether a character is a capital or a small letter, and what its other case is.  ASCII is decided
by arithmetic and everything else by the tables of `QueryBuilder.Text.LetterTable`, so that
statements about ASCII names never have to look at a table.

A letter's other case may be several characters (`ß` becomes `SS`), which is why `toUpper` and
`toLower` answer with lists.
-/

set_option autoImplicit false

namespace QueryBuilder
namespace Text

/-- Whether a character lies in the ASCII range. -/
def isAscii (c : Char) : Bool :=
  decide (c.toNat < 128)

/-- Whether a character is a capital letter. -/
def isUpper (c : Char) : Bool :=
  if isAscii c then c.isUpper else Run.anyContains LetterTable.upperRuns c.toNat

/-- Whether a character is a small letter. -/
def isLower (c : Char) : Bool :=
  if isAscii c then c.isLower else Run.anyContains LetterTable.lowerRuns c.toNat

/-- The other case of a letter beyond ASCII: its expansion if it has one, else the letter at the
distance its run gives, else the letter itself. -/
def otherCase (expansions : List (Nat × List Nat)) (shifts : List (Run × Int)) (c : Char) :
    List Char :=
  match expansions.find? (fun e => e.1 == c.toNat) with
  | some (_, codes) => codes.map Char.ofNat
  | none =>
    match shifts.find? (fun s => s.1.contains c.toNat) with
    | some (_, distance) => [Char.ofNat (c.toNat + distance).toNat]
    | none => [c]

/-- The capital form of a character. -/
def toUpper (c : Char) : List Char :=
  if isAscii c then [c.toUpper]
  else otherCase LetterTable.toUpperExpansions LetterTable.toUpperShifts c

/-- The small form of a character. -/
def toLower (c : Char) : List Char :=
  if isAscii c then [c.toLower]
  else otherCase LetterTable.toLowerExpansions LetterTable.toLowerShifts c

/-! ## ASCII -/

theorem isUpper_of_isAscii {c : Char} (h : isAscii c = true) : isUpper c = c.isUpper := by
  rw [isUpper, if_pos h]

theorem toUpper_of_isAscii {c : Char} (h : isAscii c = true) : toUpper c = [c.toUpper] := by
  rw [toUpper, if_pos h]

theorem toLower_of_isAscii {c : Char} (h : isAscii c = true) : toLower c = [c.toLower] := by
  rw [toLower, if_pos h]

end Text
end QueryBuilder
