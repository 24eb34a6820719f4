import QueryBuilder.Json.Document

/-!
# Reading records straight from text

A configuration is read from its text in document order, without a JSON value in between, so that
every fault has its place.

* `Reader.string`, `bool`, `option`, `list` — readers of one shape each.  Anything else is a
  mismatch, placed behind what was found.
* `Slot` — a field of a record: its key, what its absence means, and how its value is read.
* `Reader.record` — a record, given as an object with the fields in any order and unknown keys
  ignored, or as a list of the fields in their declared order.
-/

set_option autoImplicit false

namespace QueryBuilder
namespace Json

/-- What it means that a field of a record is left out. -/
inductive Presence where
  /-- It is a fault. -/
  | required
  /-- The field is empty; a list must still hold it. -/
  | optional
  /-- The field has its default. -/
  | defaulted
  deriving Repr, DecidableEq

/-- A field of a record of type `σ`. -/
structure Slot (σ : Type) where
  key : String
  presence : Presence
  read : σ → Reader σ

namespace Reader

/-- Fails because a token is not of the expected type. -/
def wrongType {α : Type} (expected : String) : Reader α := do
  let found : Found ←
    match ← peekToken? with
    | some 'n' => skip *> word "ull".toList *> pure .null
    | some 't' => skip *> word "rue".toList *> pure (.bool true)
    | some 'f' => skip *> word "alse".toList *> pure (.bool false)
    | some '-' => skip *> (Json.found ∘ Number.toJson) <$> number false
    | some '"' => skip *> .string <$> stringBody
    | some '[' => pure .sequence
    | some '{' => pure .map
    | some c =>
      if c.isDigit then (Json.found ∘ Number.toJson) <$> number true else failNext .valueExpected
    | none => failNext .endInValue
  failShape (.wrongType found expected)

/-- A string. -/
def string (expected : String) : Reader String := do
  match ← peekToken? with
  | some '"' => skip *> stringBody
  | _ => wrongType expected

/-- A truth value. -/
def bool : Reader Bool := do
  match ← peekToken? with
  | some 't' => skip *> word "rue".toList *> pure true
  | some 'f' => skip *> word "alse".toList *> pure false
  | _ => wrongType "a boolean"

/-- A value or `null`. -/
def option {α : Type} (inner : Reader α) : Reader (Option α) := do
  match ← peekToken? with
  | some 'n' => skip *> word "ull".toList *> pure none
  | _ => some <$> inner

/-- A list. -/
def list {α : Type} (item : Reader α) : Reader (List α) := do
  match ← peekToken? with
  | some '[' => skip *> listOf item
  | _ => wrongType "a sequence"

/-! ## Records -/

/-- Reads one member of a record given as an object. -/
def slotMember {σ : Type} (slots : List (Slot σ)) (read : σ × List String) (key : String) :
    Reader (σ × List String) := do
  match slots.find? (fun s => s.key == key) with
  | none =>
    colon
    skipValue
    return read
  | some slot =>
    if read.2.contains key then failRecord (.duplicateField key)
    colon
    return (← slot.read read.1, key :: read.2)

/-- Fails for the first required field that an object does not have. -/
def checkPresence {σ : Type} (slots : List (Slot σ)) (present : List String) : Reader Unit :=
  match slots.find? (fun s => s.presence == .required && !present.contains s.key) with
  | some slot => failRecord (.missingField slot.key)
  | none => pure ()

/-- Reads the fields of a record given as a list, from the field number `index` on. -/
def slotItems {σ : Type} (expected : String) : (index : Nat) → List (Slot σ) → σ → Reader σ
  | _, [], read => return read
  | index, slot :: rest, read => do
    if ← nextItem (index == 0) then slotItems expected (index + 1) rest (← slot.read read)
    else if slot.presence = .defaulted then slotItems expected (index + 1) rest read
    else failRecord (.wrongLength index expected)

/-- A record.  `start` holds the defaults of its fields. -/
def record {σ : Type} (name : String) (slots : List (Slot σ)) (start : σ) : Reader σ := do
  match ← peekToken? with
  | some '[' =>
    skip *> enclosed (slotItems (recordLength name slots.length) 0 slots start) closeList
  | some '{' =>
    skip *> enclosed
      (do
        let (read, present) ←
          members (slotMember slots) (← bound) true (start, ([] : List String))
        checkPresence slots present
        return read)
      closeObject
  | _ => wrongType name

end Reader

end Json
end QueryBuilder
