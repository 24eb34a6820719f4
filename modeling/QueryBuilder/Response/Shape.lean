import QueryBuilder.Json.Decode

/-!
# Shapes of response fields

What a field of a response may be read as.

* `Shape` — a scalar, any JSON value, an object, and lists and optional values of these.
* `Shape.Value` — the values of a shape.
* `Shape.decode` — reads a JSON value as a shape.  Whole numbers have the range of their shape, and
  a number with a fraction or exponent reads as `float` only.
-/

set_option autoImplicit false

namespace QueryBuilder
namespace Response

/-- The members of a response object, sorted by key. -/
structure Object where
  members : List (String × Json)
  deriving Inhabited

/-- What a field may be read as. -/
inductive Shape where
  | string
  | boolean
  /-- A whole number of 32 bits. -/
  | int
  /-- A whole number of 64 bits. -/
  | long
  /-- A whole number from 0 to 255. -/
  | byte
  | float
  /-- Any value. -/
  | json
  | object
  | list (item : Shape)
  | option (inner : Shape)
  deriving Repr, DecidableEq

namespace Shape

/-- The values of a shape. -/
def Value : Shape → Type
  | .string => String
  | .boolean => Bool
  | .int | .long | .byte => Int
  | .float => Float
  | .json => Json
  | .object => Object
  | .list item => List item.Value
  | .option inner => Option inner.Value

/-- Reads a JSON value as a shape. -/
def decode : (shape : Shape) → Json.Decoder shape.Value
  | .string => Json.Decode.string
  | .boolean => Json.Decode.bool
  | .int => Json.Decode.int "i32" (-2 ^ 31) (2 ^ 31 - 1)
  | .long => Json.Decode.int "i64" (-2 ^ 63) (2 ^ 63 - 1)
  | .byte => Json.Decode.int "u8" 0 255
  | .float => Json.Decode.float
  | .json => fun json => .ok json
  | .object => fun json => Object.mk <$> Json.Decode.members json
  | .list item => Json.Decode.list item.decode
  | .option inner => Json.Decode.option inner.decode

end Shape

end Response
end QueryBuilder
