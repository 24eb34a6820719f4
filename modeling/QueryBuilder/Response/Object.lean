import QueryBuilder.Json.Printer
import QueryBuilder.Query.Alias
import QueryBuilder.Response.Shape

/-!
# Typed access to responses

A response object answers under the keys that the selections of the query got.

* `Object.ofJson` — the object a JSON value is.
* `Object.required` — a field that must be there.
* `Object.optional` — a field that may be absent or `null`.
* `Object.typename` — the name of the object's type, if it was selected.
* `ReadError` — why a read fails.
-/

set_option autoImplicit false

namespace QueryBuilder
namespace Response

/-- Why the value of a field is refused. -/
inductive Refusal where
  | mismatch (m : Json.Mismatch)
  /-- The type name of an object is not a string. -/
  | typenameNotAString (json : Json)

/-- The wording of a refusal. -/
def Refusal.message : Refusal → String
  | .mismatch m => m.message
  | .typenameNotAString json => s!"expected a string, found {json.print}"

/-- Why a response cannot be read. -/
inductive ReadError where
  /-- A field that must be there is absent, usually because it was not selected. -/
  | missing (key : String)
  /-- A field holds a value of the wrong shape. -/
  | decode (key : String) (reason : Refusal)
  /-- The value is not an object. -/
  | notAnObject
  /-- The type name is none of the possible types. -/
  | unknownTypename (abstractType typename : String)

/-- The wording of an error. -/
def ReadError.message : ReadError → String
  | .missing key => s!"response is missing field `{key}`"
  | .decode key reason => s!"failed to decode field `{key}`: {reason.message}"
  | .notAnObject => "expected a JSON object"
  | .unknownTypename abstractType typename =>
    s!"unexpected `__typename` `{typename}` for `{abstractType}`"

namespace Object

/-- The object that a JSON value is. -/
def ofJson : Json → Except ReadError Object
  | .object members => .ok ⟨members⟩
  | _ => .error .notAnObject

/-- The object as a JSON value. -/
def toJson (o : Object) : Json :=
  .object o.members

/-- The value under a response key. -/
def get? (o : Object) (key : String) : Option Json :=
  Json.findMember? key o.members

/-- Reads the value of a field as a shape. -/
def decodeField (shape : Shape) (key : String) (json : Json) : Except ReadError shape.Value :=
  (shape.decode json).mapError fun e => .decode key (.mismatch e.mismatch)

/-- Reads a field that must be there. -/
def required (o : Object) (shape : Shape) (key : String) : Except ReadError shape.Value :=
  match o.get? key with
  | none => .error (.missing key)
  | some json => decodeField shape key json

/-- Reads a field that may be absent or `null`. -/
def optional (o : Object) (shape : Shape) (key : String) :
    Except ReadError (Option shape.Value) :=
  match o.get? key with
  | none | some .null => .ok none
  | some json => some <$> decodeField shape key json

/-- The name of the object's type. -/
def typename (o : Object) : Except ReadError String :=
  match o.get? Query.typenameField with
  | some (.string name) => .ok name
  | some other => .error (.decode Query.typenameField (.typenameNotAString other))
  | none => .error (.missing Query.typenameField)

end Object

end Response
end QueryBuilder
