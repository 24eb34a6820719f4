import QueryBuilder.Decimal.Layout
import QueryBuilder.Json.Basic
import QueryBuilder.Text.Hex

/-!
# Printing JSON

The compact text of a value: no spaces, members in key order, characters beyond ASCII as they are.
A control character without a short escape is written as `\u` with four digits.
-/

set_option autoImplicit false

namespace QueryBuilder
namespace Json

/-- The spelling of one character inside a JSON string. -/
def printChar (c : Char) : List Char :=
  if c = '"' then ['\\', '"']
  else if c = '\\' then ['\\', '\\']
  else if c = '\n' then ['\\', 'n']
  else if c = '\r' then ['\\', 'r']
  else if c = '\t' then ['\\', 't']
  else if c.toNat = 8 then ['\\', 'b']
  else if c.toNat = 12 then ['\\', 'f']
  else if c.toNat < 32 then '\\' :: 'u' :: Text.hexPadded 4 c.toNat
  else [c]

/-- The text of a string. -/
def printString (s : String) : String :=
  String.ofList ('"' :: (s.toList.flatMap printChar ++ ['"']))

mutual

/-- The compact text of a value. -/
def print : Json → String
  | .null => "null"
  | .bool b => if b then "true" else "false"
  | .int n => toString n
  | .float x => if x.isFinite then Decimal.scientific x else "null"
  | .string s => printString s
  | .array items => "[" ++ ",".intercalate (printItems items) ++ "]"
  | .object members => "\x7b" ++ ",".intercalate (printMembers members) ++ "\x7d"

/-- The texts of the items of an array. -/
def printItems : List Json → List String
  | [] => []
  | item :: rest => print item :: printItems rest

/-- The texts of the members of an object. -/
def printMembers : List (String × Json) → List String
  | [] => []
  | (key, value) :: rest => (printString key ++ ":" ++ print value) :: printMembers rest

end

end Json
end QueryBuilder
