import QueryBuilder.Json.Mismatch

/-!
# Faults of a JSON text

Why a text cannot be read, and where.

* `Defect` — what is wrong with the text itself.
* `Cause` — a defect, or a mismatch met while reading the text as data of a known shape.
* `Fault` — a cause and the place: the characters that were not consumed there, and how many bytes
  of them were looked at.  The fault of a whole record is not `placed` until the reader has left
  the record.
* `Position` — line and column.  Columns count bytes from one; zero stands right behind a line
  break.
* `TextError` — a cause and its position, once reading is over.
-/

set_option autoImplicit false

namespace QueryBuilder
namespace Json

/-- What is wrong with a text. -/
inductive Defect where
  | endInValue
  | endInList
  | endInObject
  | endInString
  | colonExpected
  | listSeparatorExpected
  | objectSeparatorExpected
  | wordExpected
  | valueExpected
  | invalidEscape
  | invalidNumber
  | numberOutOfRange
  | controlCharacter
  | keyNotAString
  | loneSurrogate
  | endOfHexEscape
  | trailingComma
  | trailingCharacters
  | tooDeep
  deriving Repr, DecidableEq

/-- The wording of a defect. -/
def Defect.message : Defect → String
  | .endInValue => "EOF while parsing a value"
  | .endInList => "EOF while parsing a list"
  | .endInObject => "EOF while parsing an object"
  | .endInString => "EOF while parsing a string"
  | .colonExpected => "expected `:`"
  | .listSeparatorExpected => "expected `,` or `]`"
  | .objectSeparatorExpected => "expected `,` or `\x7d`"
  | .wordExpected => "expected ident"
  | .valueExpected => "expected value"
  | .invalidEscape => "invalid escape"
  | .invalidNumber => "invalid number"
  | .numberOutOfRange => "number out of range"
  | .controlCharacter => "control character (\\u0000-\\u001F) found while parsing a string"
  | .keyNotAString => "key must be a string"
  | .loneSurrogate => "lone leading surrogate in hex escape"
  | .endOfHexEscape => "unexpected end of hex escape"
  | .trailingComma => "trailing comma"
  | .trailingCharacters => "trailing characters"
  | .tooDeep => "recursion limit exceeded"

/-- Why a text cannot be read. -/
inductive Cause where
  | defect (d : Defect)
  | mismatch (m : Mismatch)

/-- The wording of a cause. -/
def Cause.message : Cause → String
  | .defect d => d.message
  | .mismatch m => m.message

/-- A cause and its place in the text. -/
structure Fault where
  cause : Cause
  /-- The characters of the text that were not consumed. -/
  rest : List Char
  /-- How many bytes of the rest were looked at. -/
  lookahead : Nat
  /-- Whether the place is final. -/
  placed : Bool

/-! ## Positions -/

/-- A place in a text. -/
structure Position where
  line : Nat
  column : Nat
  deriving Repr, DecidableEq

/-- The position behind one more character. -/
def Position.advance (p : Position) (c : Char) : Position :=
  if c = '\n' then ⟨p.line + 1, 0⟩ else ⟨p.line, p.column + c.utf8Size⟩

/-- The position behind a number of bytes more, at most those of the given characters. -/
def Position.advanceBytes (p : Position) : Nat → List Char → Position
  | _, [] => p
  | bytes, c :: cs =>
    if bytes = 0 then p
    else if c.utf8Size ≤ bytes then (p.advance c).advanceBytes (bytes - c.utf8Size) cs
    else ⟨p.line, p.column + bytes⟩

/-- The position of a fault in a text. -/
def Fault.position (text : List Char) (fault : Fault) : Position :=
  let consumed := text.take (text.length - fault.rest.length)
  (consumed.foldl Position.advance ⟨1, 0⟩).advanceBytes fault.lookahead fault.rest

/-- Why a text cannot be read, and where. -/
structure TextError where
  cause : Cause
  position : Position

/-- The wording of an error. -/
def TextError.message (e : TextError) : String :=
  s!"{e.cause.message} at line {e.position.line} column {e.position.column}"

/-- The error that a fault is in a text. -/
def Fault.inText (text : List Char) (fault : Fault) : TextError :=
  ⟨fault.cause, fault.position text⟩

end Json
end QueryBuilder
