import QueryBuilder.Decimal.Layout
import QueryBuilder.Json.Basic
import QueryBuilder.Text.Quoted

/-!
# Values of the wrong shape

Why a JSON value does not decode as what is wanted.

* `Found` — what stands in the place, as far as a message shows it.
* `Mismatch` — the cause, and `Mismatch.message` its wording.
-/

set_option autoImplicit false

namespace QueryBuilder
namespace Json

/-- What stands in the place of a wanted value. -/
inductive Found where
  | null
  | bool (b : Bool)
  | int (n : Int)
  | float (x : Float)
  | string (s : String)
  | sequence
  | map

/-- What a value shows of itself in messages. -/
def found : Json → Found
  | .null => .null
  | .bool b => .bool b
  | .int n => .int n
  | .float x => .float x
  | .string s => .string s
  | .array _ => .sequence
  | .object _ => .map

/-- The wording of what was found. -/
def Found.text : Found → String
  | .null => "null"
  | .bool b => s!"boolean `{b}`"
  | .int n => s!"integer `{n}`"
  | .float x => s!"floating point `{Decimal.scientific x}`"
  | .string s => s!"string {Text.quoted s}"
  | .sequence => "sequence"
  | .map => "map"

/-- Why a value does not decode. -/
inductive Mismatch where
  /-- A value of another type. -/
  | wrongType (found : Found) (expected : String)
  /-- A number that the wanted type does not hold. -/
  | outOfRange (found : Found) (expected : String)
  /-- A member that must be present is not. -/
  | missingField (key : String)
  /-- A member is given twice. -/
  | duplicateField (key : String)
  /-- An array with too few or too many items. -/
  | wrongLength (length : Nat) (expected : String)

/-- The wording of a mismatch. -/
def Mismatch.message : Mismatch → String
  | .wrongType found expected => s!"invalid type: {found.text}, expected {expected}"
  | .outOfRange found expected => s!"invalid value: {found.text}, expected {expected}"
  | .missingField key => s!"missing field `{key}`"
  | .duplicateField key => s!"duplicate field `{key}`"
  | .wrongLength length expected => s!"invalid length {length}, expected {expected}"

/-- The wording of how many items an array for a record must have. -/
def recordLength (record : String) (size : Nat) : String :=
  s!"{record} with {size} element" ++ (if size = 1 then "" else "s")

end Json
end QueryBuilder
