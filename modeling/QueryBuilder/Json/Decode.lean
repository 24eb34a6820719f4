import QueryBuilder.Json.Mismatch

/-!
# Decoding JSON values

How JSON values become data of a known shape.  Nothing is coerced: a string is no number, and a
number with a fraction or exponent is no whole number.

* `DecodeError` — a mismatch and the path to it.
* `Decode.string`, `bool`, `int`, `float`, `option`, `list` — decoders of one shape each.
* `Fields` — what a record reads of its fields.  Of several faulty fields the one with the least
  *rank* counts: fields that are present come first, in the order of the object's keys, and then
  the absent ones in declared order.  `Fields.decode` turns it into a decoder of records, which
  may also be given as lists of their fields.
-/

set_option autoImplicit false

namespace QueryBuilder
namespace Json

/-- One step into a value. -/
inductive Step where
  | key (name : String)
  | index (i : Nat)
  deriving Repr, DecidableEq

/-- A mismatch and where it is. -/
structure DecodeError where
  path : List Step
  mismatch : Mismatch

/-- The wording of a path: a point for the whole value. -/
def pathText : List Step → String
  | [] => "."
  | first :: rest => start first ++ String.join (rest.map step)
where
  start : Step → String
    | .key name => name
    | .index i => s!"[{i}]"
  step : Step → String
    | .key name => "." ++ name
    | .index i => s!"[{i}]"

/-- Decodes a value. -/
abbrev Decoder (α : Type) := Json → Except DecodeError α

namespace Decode

/-- Adds a step to the path of an error. -/
def within {α : Type} (step : Step) : Except DecodeError α → Except DecodeError α
  | .ok a => .ok a
  | .error e => .error { e with path := step :: e.path }

/-- Fails because the value has another type. -/
def wrongType {α : Type} (expected : String) : Decoder α :=
  fun json => .error ⟨[], .wrongType json.found expected⟩

/-- A string. -/
def string : Decoder String
  | .string s => .ok s
  | json => wrongType "a string" json

/-- A truth value. -/
def bool : Decoder Bool
  | .bool b => .ok b
  | json => wrongType "a boolean" json

/-- A whole number between two bounds. -/
def int (expected : String) (low high : Int) : Decoder Int
  | .int n => if low ≤ n ∧ n ≤ high then .ok n else .error ⟨[], .outOfRange (.int n) expected⟩
  | json => wrongType expected json

/-- A number; whole numbers are rounded to doubles. -/
def float : Decoder Float
  | .int n => .ok (Float.ofInt n)
  | .float x => .ok x
  | json => wrongType "f64" json

/-- An object with any members. -/
def members : Decoder (List (String × Json))
  | .object ms => .ok ms
  | json => wrongType "a map" json

/-- A value or `null`. -/
def option {α : Type} (inner : Decoder α) : Decoder (Option α)
  | .null => .ok none
  | json => some <$> inner json

/-- The items of a list, numbered from `index` on. -/
def itemsFrom {α : Type} (inner : Decoder α) :
    (index : Nat) → List Json → Except DecodeError (List α)
  | _, [] => .ok []
  | index, json :: rest => do
    let a ← within (.index index) (inner json)
    return a :: (← itemsFrom inner (index + 1) rest)

/-- A list. -/
def list {α : Type} (inner : Decoder α) : Decoder (List α)
  | .array items => itemsFrom inner 0 items
  | json => wrongType "a sequence" json

end Decode

/-! ## Records -/

/-- What a record is given as: an object, or the list of its fields. -/
inductive RecordSource where
  | members (ms : List (String × Json))
  /-- The items, and the wording of how many there must be. -/
  | items (items : List Json) (expected : String)

/-- What it means that a field is left out. -/
inductive Absent (α : Type) where
  /-- It is a fault. -/
  | fault
  /-- An object without the field stands for one with this value; a list must hold it. -/
  | inObject (value : α)
  /-- The field has this default. -/
  | always (value : α)

/-- What a record reads of its fields: a value, or the error with the least rank. -/
structure Fields (α : Type) where
  read : RecordSource → Except (Nat × DecodeError) α

namespace Fields

/-- A record that reads no field. -/
def pure {α : Type} (a : α) : Fields α := ⟨fun _ => .ok a⟩

/-- Reads further fields.  Of two errors the one with the lesser rank counts. -/
def and {α β : Type} (f : Fields (α → β)) (x : Fields α) : Fields β where
  read source :=
    match f.read source, x.read source with
    | .ok f, .ok a => .ok (f a)
    | .error e, .ok _ => .error e
    | .ok _, .error e => .error e
    | .error e, .error e' => .error (if e'.1 < e.1 then e' else e)

/-- The error of a field, with its rank. -/
def ranked {α : Type} (rank : Nat) : Except DecodeError α → Except (Nat × DecodeError) α
  | .ok a => .ok a
  | .error e => .error (rank, e)

/-- Reads the field with a place in the declared order and a key. -/
def field {α : Type} (index : Nat) (key : String) (absent : Absent α) (decode : Decoder α) :
    Fields α where
  read
    | .members ms =>
      match ms.findIdx? (fun m => m.1 == key), Json.findMember? key ms with
      | some rank, some value => ranked rank (Decode.within (.key key) (decode value))
      | _, _ =>
        match absent with
        | .fault => .error (ms.length + index, ⟨[], .missingField key⟩)
        | .inObject a | .always a => .ok a
    | .items items expected =>
      match items[index]?, absent with
      | some value, _ => ranked index (Decode.within (.index index) (decode value))
      | none, .always a => .ok a
      | none, _ => .error (index, ⟨[], .wrongLength index expected⟩)

instance : Functor Fields where
  map f x := Fields.and (Fields.pure f) x

instance : Seq Fields where
  seq f x := Fields.and f (x ())

/-- Decodes a record with the given name and number of fields. -/
def decode {α : Type} (name : String) (size : Nat) (fields : Fields α) : Decoder α
  | .object ms => (fields.read (.members ms)).mapError (·.2)
  | .array items =>
    match fields.read (.items items (recordLength name size)) with
    | .error e => .error e.2
    | .ok a =>
      if items.length ≤ size then .ok a
      else .error ⟨[], .wrongLength items.length "fewer elements in array"⟩
  | json => Decode.wrongType name json

end Fields

end Json
end QueryBuilder
