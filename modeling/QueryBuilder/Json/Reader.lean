import QueryBuilder.Json.Fault
import QueryBuilder.Text.Hex

/-!
# Readers of JSON text

A `Reader` consumes characters of a text and yields a value or a fault.

* `endAt`, `peek?`, `skip`, `failHere`, `failNext` — the steps that readers are made of.
* `word` — one of the words `null`, `true` and `false`.
* `stringBody` — a string behind its opening quote, escapes decoded.
* `listOf`, `objectOf` — a list and an object, given the readers of what they hold.
-/

set_option autoImplicit false

namespace QueryBuilder
namespace Json

/-- Consumes characters and yields a value or a fault.  The number is a bound for the steps of any
loop, greater than the number of characters of the text. -/
abbrev Reader (α : Type) := ReaderT Nat (StateT (List Char) (Except Fault)) α

namespace Reader

/-- Fails with a defect behind what is consumed. -/
def failHere {α : Type} (d : Defect) : Reader α :=
  fun _ cs => .error ⟨.defect d, cs, 0, true⟩

/-- Fails with a defect of the next byte. -/
def failNext {α : Type} (d : Defect) : Reader α :=
  fun _ cs => .error ⟨.defect d, cs, 1, true⟩

/-- Fails with a mismatch whose place is behind what is consumed. -/
def failShape {α : Type} (m : Mismatch) : Reader α :=
  fun _ cs => .error ⟨.mismatch m, cs, 0, true⟩

/-- Fails with a mismatch of the record that is being read. -/
def failRecord {α : Type} (m : Mismatch) : Reader α :=
  fun _ cs => .error ⟨.mismatch m, cs, 0, false⟩

/-- The next character. -/
def peek? : Reader (Option Char) :=
  fun _ cs => .ok (cs.head?, cs)

/-- Consumes a character. -/
def skip : Reader Unit :=
  fun _ cs => .ok ((), cs.drop 1)

/-- A bound for the steps of a loop that consumes a character in each. -/
def bound : Reader Nat :=
  fun n cs => .ok (n, cs)

/-- Whether a character may stand between the tokens of a text. -/
def isSpace (c : Char) : Bool :=
  c == ' ' || c == '\n' || c == '\t' || c == '\r'

/-- Consumes the space before a token. -/
def skipSpace : Reader Unit :=
  fun _ cs => .ok ((), cs.dropWhile isSpace)

/-- The first character of the next token. -/
def peekToken? : Reader (Option Char) := do
  skipSpace
  peek?

/-- Consumes the digits that come next. -/
def takeDigits : Reader (List Char) :=
  fun _ cs => .ok (cs.takeWhile Char.isDigit, cs.dropWhile Char.isDigit)

/-- Consumes the characters of a word. -/
def word : List Char → Reader Unit
  | [] => pure ()
  | expected :: others => do
    match ← peek? with
    | none => failHere .endInValue
    | some c => if c = expected then skip *> word others else failNext .wordExpected

/-! ## Strings -/

/-- The value of the four digits behind `\u`.  Four bytes are looked at, whatever they are. -/
def hexFour : Reader Nat := fun n cs =>
  match (cs.take 4).length, Text.hexNumber? (cs.take 4) with
  | 4, some code => .ok (code, cs.drop 4)
  | _, _ =>
    if (String.ofList cs).utf8ByteSize < 4 then failHere .endInString n []
    else .error ⟨.defect .invalidEscape, cs, 4, true⟩

/-- The low half of a pair of escapes that spell one character, behind its high half. -/
def lowSurrogate : Reader Nat := do
  for expected in ['\\', 'u'] do
    match ← peek? with
    | none => failNext .endInString
    | some c => if c = expected then skip else failNext .endOfHexEscape
  let low ← hexFour
  if 0xDC00 ≤ low ∧ low ≤ 0xDFFF then return low else failHere .loneSurrogate

/-- The character of an escape behind `\u`. -/
def numberedEscape : Reader Char := do
  let n ← hexFour
  if 0xDC00 ≤ n ∧ n ≤ 0xDFFF then failHere .loneSurrogate
  else if 0xD800 ≤ n ∧ n ≤ 0xDBFF then
    let low ← lowSurrogate
    return Char.ofNat (0x10000 + (n - 0xD800) * 0x400 + (low - 0xDC00))
  else return Char.ofNat n

/-- The character that a letter behind a backslash stands for. -/
def shortEscape? (c : Char) : Option Char :=
  match c with
  | '"' => some '"'
  | '\\' => some '\\'
  | '/' => some '/'
  | 'b' => some (Char.ofNat 8)
  | 'f' => some (Char.ofNat 12)
  | 'n' => some '\n'
  | 'r' => some '\r'
  | 't' => some '\t'
  | _ => none

/-- The character of an escape behind its backslash. -/
def escape : Reader Char := do
  match ← peek? with
  | none => failHere .endInString
  | some 'u' => skip *> numberedEscape
  | some c =>
    match shortEscape? c with
    | some decoded => skip *> pure decoded
    | none => failNext .invalidEscape

/-- A string behind its opening quote. -/
def stringChars : (steps : Nat) → List Char → Reader String
  | 0, _ => failHere .endInString
  | steps + 1, read => do
    match ← peek? with
    | none => failHere .endInString
    | some '"' => skip *> pure (String.ofList read.reverse)
    | some '\\' =>
      skip
      let c ← escape
      stringChars steps (c :: read)
    | some c =>
      if c.toNat < 32 then failNext .controlCharacter
      else
        skip
        stringChars steps (c :: read)

/-- A string behind its opening quote. -/
def stringBody : Reader String := do
  stringChars (← bound) []

/-! ## Containers -/

/-- Whether another item of a list follows.  Behind an item a comma separates it from the next. -/
def nextItem (first : Bool) : Reader Bool := do
  match ← peekToken? with
  | none => failNext .endInList
  | some ']' => return false
  | some c =>
    if first then return true
    else if c = ',' then
      skip
      match ← peekToken? with
      | none => failNext .endInValue
      | some ']' => failNext .trailingComma
      | some _ => return true
    else failNext .listSeparatorExpected

/-- The next key of an object, if one follows.  Behind a member a comma separates it from the
next. -/
def nextKey (first : Bool) : Reader (Option String) := do
  match ← peekToken? with
  | none => failNext .endInObject
  | some '}' => return none
  | some c =>
    if first then
      if c = '"' then skip *> some <$> stringBody else failNext .keyNotAString
    else if c = ',' then
      skip
      match ← peekToken? with
      | none => failNext .endInValue
      | some '"' => skip *> some <$> stringBody
      | some '}' => failNext .trailingComma
      | some _ => failNext .keyNotAString
    else failNext .objectSeparatorExpected

/-- The colon between a key and its value. -/
def colon : Reader Unit := do
  match ← peekToken? with
  | none => failNext .endInObject
  | some ':' => skip
  | some _ => failNext .colonExpected

/-- The items of a list up to its closing bracket. -/
def items {α : Type} (item : Reader α) : (steps : Nat) → List α → Reader (List α)
  | 0, _ => failNext .endInList
  | steps + 1, read => do
    if ← nextItem read.isEmpty then items item steps ((← item) :: read)
    else return read.reverse

/-- The members of an object up to its closing brace, added one by one to what is read. -/
def members {σ : Type} (member : σ → String → Reader σ) :
    (steps : Nat) → (first : Bool) → σ → Reader σ
  | 0, _, _ => failNext .endInObject
  | steps + 1, first, read => do
    match ← nextKey first with
    | none => return read
    | some key => members member steps false (← member read key)

/-- What closes a list, once its items are read. -/
def closeList : Reader Unit := do
  match ← peekToken? with
  | none => failNext .endInList
  | some ']' => skip
  | some ',' =>
    skip
    match ← peekToken? with
    | some ']' => failNext .trailingComma
    | _ => failNext .trailingCharacters
  | some _ => failNext .trailingCharacters

/-- What closes an object, once its members are read. -/
def closeObject : Reader Unit := do
  match ← peekToken? with
  | none => failNext .endInObject
  | some '}' => skip
  | some ',' => failNext .trailingComma
  | some _ => failNext .trailingCharacters

/-- Reads what stands between brackets and then the closing one.  A fault inside comes first; if it
concerns the record as a whole, its place is where the closing bracket was looked for. -/
def enclosed {α : Type} (inner : Reader α) (close : Reader Unit) : Reader α := fun n cs =>
  match inner n cs with
  | .ok (a, rest) => (close n rest).map fun closed => (a, closed.2)
  | .error fault =>
    if fault.placed then .error fault
    else
      match close n fault.rest with
      | .ok (_, rest) => .error { fault with rest, placed := true }
      | .error behind => .error { fault with rest := behind.rest, placed := true }

/-- A list behind its opening bracket. -/
def listOf {α : Type} (item : Reader α) : Reader (List α) :=
  enclosed (do items item (← bound) []) closeList

/-- An object behind its opening brace. -/
def objectOf {σ : Type} (start : σ) (member : σ → String → Reader σ) : Reader σ :=
  enclosed (do members member (← bound) true start) closeObject

/-- Fails if anything but space follows. -/
def finish : Reader Unit := do
  match ← peekToken? with
  | none => pure ()
  | some _ => failNext .trailingCharacters

end Reader

/-- Reads a whole text. -/
def Reader.run {α : Type} (reader : Reader α) (text : String) : Except TextError α :=
  match (reader <* Reader.finish) (text.length + 1) text.toList with
  | .ok (a, _) => .ok a
  | .error fault => .error (fault.inText text.toList)

end Json
end QueryBuilder
