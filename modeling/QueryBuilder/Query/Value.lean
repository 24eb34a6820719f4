import QueryBuilder.Decimal.Layout
import QueryBuilder.Text.Hex

/-!
# Input values and arguments

The literals that a query passes to its fields, and how they are written.

* `Value` — an input value.  The fields of an object keep the order in which they were first set.
* `encodeChar`, `stringLiteral` — a string between quotes.  A quote, a backslash, line feed,
  carriage return and tab have a short escape, every other control character is written as `\u`
  with four digits, and everything else stands for itself.
* `Value.render`, `Argument.render` — the text of a value and of an argument.
* `renderArguments` — an argument list in parentheses, or nothing.  The text doubles as the
  signature by which two occurrences of a field are told apart.
-/

set_option autoImplicit false

namespace QueryBuilder
namespace Query

/-- An input value. -/
inductive Value where
  | null
  | int (n : Int)
  | float (x : Float)
  | string (s : String)
  | bool (b : Bool)
  /-- An enum value, written without quotes. -/
  | enum (name : String)
  | list (items : List Value)
  | object (fields : List (String × Value))
  deriving Inhabited

/-! ## String literals -/

/-- Whether a character is a control character. -/
def isControl (c : Char) : Bool :=
  decide (c.toNat < 32) || (decide (127 ≤ c.toNat) && decide (c.toNat < 160))

/-- The spelling of one character inside a string literal. -/
def encodeChar (c : Char) : List Char :=
  if c = '"' then ['\\', '"']
  else if c = '\\' then ['\\', '\\']
  else if c = '\n' then ['\\', 'n']
  else if c = '\r' then ['\\', 'r']
  else if c = '\t' then ['\\', 't']
  else if isControl c then '\\' :: 'u' :: Text.hexFour c.toNat
  else [c]

/-- The characters of the literal of a string. -/
def encodeString (cs : List Char) : List Char :=
  '"' :: (cs.flatMap encodeChar ++ ['"'])

/-- The literal of a string. -/
def stringLiteral (s : String) : String :=
  String.ofList (encodeString s.toList)

/-! ## Values -/

/-- The text of a number with a fraction.  What is not a finite number is written as `null`. -/
def floatLiteral (x : Float) : String :=
  if x.isFinite then Decimal.plain x else "null"

namespace Value

mutual

/-- The text of a value. -/
def render : Value → String
  | .null => "null"
  | .int n => toString n
  | .float x => floatLiteral x
  | .string s => stringLiteral s
  | .bool b => if b then "true" else "false"
  | .enum name => name
  | .list items => "[" ++ ", ".intercalate (renderItems items) ++ "]"
  | .object fields => "\x7b" ++ ", ".intercalate (renderFields fields) ++ "\x7d"

/-- The texts of the items of a list. -/
def renderItems : List Value → List String
  | [] => []
  | item :: rest => render item :: renderItems rest

/-- The texts of the fields of an object. -/
def renderFields : List (String × Value) → List String
  | [] => []
  | (name, value) :: rest => (name ++ ": " ++ render value) :: renderFields rest

end

/-- Sets a field of an object.  A field that is set again keeps its place. -/
def setField (fields : List (String × Value)) (name : String) (value : Value) :
    List (String × Value) :=
  match fields with
  | [] => [(name, value)]
  | (other, old) :: rest =>
    if other = name then (name, value) :: rest else (other, old) :: setField rest name value

/-- The object that results from setting fields one after the other. -/
def ofFields (fields : List (String × Value)) : Value :=
  .object (fields.foldl (fun acc field => setField acc field.1 field.2) [])

end Value

/-! ## Arguments -/

/-- A field argument. -/
structure Argument where
  name : String
  value : Value
  deriving Inhabited

/-- The text of an argument. -/
def Argument.render (a : Argument) : String :=
  a.name ++ ": " ++ a.value.render

/-- The text of an argument list: nothing if it is empty. -/
def renderArguments (arguments : List Argument) : String :=
  match arguments with
  | [] => ""
  | _ :: _ => "(" ++ ", ".intercalate (arguments.map Argument.render) ++ ")"

end Query
end QueryBuilder
