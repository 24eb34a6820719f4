import QueryBuilder.Json.Number

/-!
# Reading JSON documents

* `Reader.value` — a value, with at most 127 containers inside each other.
* `Reader.skipValue` — passes over a value whose content does not matter.  It keeps the open
  brackets on a stack and has no limit to their number.
* `Json.parse` — the value of a whole text.
-/

set_option autoImplicit false

namespace QueryBuilder
namespace Json

namespace Reader

/-- A value, given the readers of arrays and objects. -/
def valueWith (array object : Reader Json) : Reader Json := do
  match ← peekToken? with
  | none => failNext .endInValue
  | some 'n' => skip *> word "ull".toList *> pure .null
  | some 't' => skip *> word "rue".toList *> pure (.bool true)
  | some 'f' => skip *> word "alse".toList *> pure (.bool false)
  | some '-' => skip *> Number.toJson <$> number false
  | some '"' => skip *> .string <$> stringBody
  | some '[' => array
  | some '{' => object
  | some c => if c.isDigit then Number.toJson <$> number true else failNext .valueExpected

/-- A value with at most `depth` containers inside each other. -/
def value : (depth : Nat) → Reader Json
  | 0 => valueWith (failNext .tooDeep) (failNext .tooDeep)
  | depth + 1 =>
    valueWith
      (skip *> .array <$> listOf (value depth))
      (skip *> .object <$> objectOf [] fun sorted key => do
        colon
        return insertMember key (← value depth) sorted)

/-- The number of containers that may stand inside each other. -/
def maxDepth : Nat := 127

/-! ## Passing over a value -/

/-- Passes over a string behind its opening quote.  An escaped number may be any number. -/
def skipString : (steps : Nat) → Reader Unit
  | 0 => failHere .endInString
  | steps + 1 => do
    match ← peek? with
    | none => failHere .endInString
    | some '"' => skip
    | some '\\' =>
      skip
      match ← peek? with
      | none => failHere .endInString
      | some 'u' =>
        skip
        let _ ← hexFour
      | some c => if (shortEscape? c).isSome then skip else failNext .invalidEscape
      skipString steps
    | some c =>
      if c.toNat < 32 then failHere .controlCharacter
      else
        skip
        skipString steps

/-- Passes over a string behind its opening quote. -/
def skipStringBody : Reader Unit := do
  skipString (← bound)

/-- Passes over the key of a member and its colon. -/
def skipKey : Reader Unit := do
  match ← peekToken? with
  | none => failNext .endInObject
  | some '"' => skip *> skipStringBody *> colon
  | some _ => failNext .keyNotAString

/-- An open bracket that a value stands in. -/
inductive Bracket where
  | list
  | object
  deriving Repr, DecidableEq

/-- Passes over closing brackets up to where the next value starts, and answers with the brackets
that are open there; none means that the value is complete.  `behindItem` says whether an item
stands before this place. -/
def skipClosing : (behindItem : Bool) → List Bracket → Reader (List Bracket)
  | _, [] => return []
  | behindItem, bracket :: outer => do
    let start : Reader (List Bracket) := do
      if bracket = .object then skipKey
      return bracket :: outer
    match ← peekToken?, bracket with
    | some ']', .list | some '}', .object => skip *> skipClosing true outer
    | some ',', _ => if behindItem then skip *> start else start
    | some _, .list => if behindItem then failNext .listSeparatorExpected else start
    | some _, .object => if behindItem then failNext .objectSeparatorExpected else start
    | none, .list => failNext .endInList
    | none, .object => failNext .endInObject

/-- Passes over a value that stands inside some open brackets, and over all that follows in
them. -/
def skipInside : (steps : Nat) → List Bracket → Reader Unit
  | 0, _ => failNext .endInValue
  | steps + 1, stack => do
    let (behindItem, stack) ←
      match ← peekToken? with
      | none => failNext .endInValue
      | some 'n' => skip *> word "ull".toList *> pure (true, stack)
      | some 't' => skip *> word "rue".toList *> pure (true, stack)
      | some 'f' => skip *> word "alse".toList *> pure (true, stack)
      | some '-' => skip *> skipNumber *> pure (true, stack)
      | some '"' => skip *> skipStringBody *> pure (true, stack)
      | some '[' => skip *> pure (false, .list :: stack)
      | some '{' => skip *> pure (false, .object :: stack)
      | some c => if c.isDigit then skipNumber *> pure (true, stack) else failNext .valueExpected
    match ← skipClosing behindItem stack with
    | [] => return ()
    | open_ => skipInside steps open_

/-- Passes over a value. -/
def skipValue : Reader Unit := do
  skipInside (← bound) []

end Reader

/-- The value of a JSON text. -/
def parse (text : String) : Except TextError Json :=
  (Reader.value Reader.maxDepth).run text

end Json
end QueryBuilder
