import QueryBuilder.Json.Decode
import QueryBuilder.Schema.Error

/-!
# Introspection documents

What an introspection result says, before its references are resolved: kinds are tags, and types
are referred to by name.

* `Document` and its parts — the result as it is declared.
* `RefDecl` — a chain of references, each of which may wrap the next.
* `Document.ofJson` — decodes a result, with or without the envelopes `data` and `__schema`
  around it.
-/

set_option autoImplicit false

namespace QueryBuilder
namespace Schema

/-- A reference as it is declared: a kind tag, perhaps a name, and perhaps the reference inside. -/
inductive RefDecl where
  | plain (kind : String) (name? : Option String)
  | wrapping (kind : String) (name? : Option String) (ofType : RefDecl)
  deriving Repr, DecidableEq

/-- An argument or input field as it is declared. -/
structure InputDecl where
  name : String
  description? : Option String
  type : RefDecl
  default? : Option String
  deriving Repr, DecidableEq

/-- A field as it is declared. -/
structure FieldDecl where
  name : String
  description? : Option String
  args? : Option (List InputDecl)
  type : RefDecl
  isDeprecated : Bool
  deprecationReason? : Option String
  deriving Repr, DecidableEq

/-- An enum value as it is declared. -/
structure EnumValueDecl where
  name : String
  description? : Option String
  isDeprecated : Bool
  deprecationReason? : Option String
  deriving Repr, DecidableEq

/-- A type as it is declared. -/
structure TypeDecl where
  kind : String
  name : String
  description? : Option String
  fields? : Option (List FieldDecl)
  interfaces? : Option (List RefDecl)
  possibleTypes? : Option (List RefDecl)
  enumValues? : Option (List EnumValueDecl)
  inputFields? : Option (List InputDecl)
  deriving Repr, DecidableEq

/-- An introspection result. -/
structure Document where
  /-- The name of the root type of queries. -/
  query? : Option String
  /-- The name of the root type of mutations. -/
  mutation? : Option String
  /-- The name of the root type of subscriptions. -/
  subscription? : Option String
  types : List TypeDecl
  deriving Repr, DecidableEq

/-! ## Decoding -/

open Json

/-- A field that must be there. -/
def neededField {α : Type} (index : Nat) (key : String) (decode : Decoder α) : Fields α :=
  .field index key .fault decode

/-- A field that may be absent or `null`. -/
def optionalField {α : Type} (index : Nat) (key : String) (decode : Decoder α) :
    Fields (Option α) :=
  .field index key (.inObject none) (Decode.option decode)

/-- The reference with a kind, a name and what is inside. -/
def RefDecl.ofParts (kind : String) (name? : Option String) : Option RefDecl → RefDecl
  | none => .plain kind name?
  | some inner => .wrapping kind name? inner

/-- Decodes a reference that is nested at most `depth` deep. -/
def RefDecl.decodeNested : (depth : Nat) → Decoder RefDecl
  | 0 => Decode.wrongType "struct RawTypeRef"
  | depth + 1 =>
    Fields.decode "struct RawTypeRef" 3
      (RefDecl.ofParts
        <$> neededField 0 "kind" Decode.string
        <*> optionalField 1 "name" Decode.string
        <*> optionalField 2 "ofType" (decodeNested depth))

/-- Decodes a reference. -/
def RefDecl.decode : Decoder RefDecl :=
  fun json => RefDecl.decodeNested (json.depth + 1) json

/-- Decodes an argument or input field. -/
def InputDecl.decode : Decoder InputDecl :=
  Fields.decode "struct RawInputValue" 4
    (InputDecl.mk
      <$> neededField 0 "name" Decode.string
      <*> optionalField 1 "description" Decode.string
      <*> neededField 2 "type" RefDecl.decode
      <*> optionalField 3 "defaultValue" Decode.string)

/-- Decodes a field. -/
def FieldDecl.decode : Decoder FieldDecl :=
  Fields.decode "struct RawField" 6
    (FieldDecl.mk
      <$> neededField 0 "name" Decode.string
      <*> optionalField 1 "description" Decode.string
      <*> optionalField 2 "args" (Decode.list InputDecl.decode)
      <*> neededField 3 "type" RefDecl.decode
      <*> .field 4 "isDeprecated" (.always false) Decode.bool
      <*> optionalField 5 "deprecationReason" Decode.string)

/-- Decodes an enum value. -/
def EnumValueDecl.decode : Decoder EnumValueDecl :=
  Fields.decode "struct RawEnumValue" 4
    (EnumValueDecl.mk
      <$> neededField 0 "name" Decode.string
      <*> optionalField 1 "description" Decode.string
      <*> .field 2 "isDeprecated" (.always false) Decode.bool
      <*> optionalField 3 "deprecationReason" Decode.string)

/-- Decodes a type. -/
def TypeDecl.decode : Decoder TypeDecl :=
  Fields.decode "struct RawType" 8
    (TypeDecl.mk
      <$> neededField 0 "kind" Decode.string
      <*> neededField 1 "name" Decode.string
      <*> optionalField 2 "description" Decode.string
      <*> optionalField 3 "fields" (Decode.list FieldDecl.decode)
      <*> optionalField 4 "interfaces" (Decode.list RefDecl.decode)
      <*> optionalField 5 "possibleTypes" (Decode.list RefDecl.decode)
      <*> optionalField 6 "enumValues" (Decode.list EnumValueDecl.decode)
      <*> optionalField 7 "inputFields" (Decode.list InputDecl.decode))

/-- Decodes the name of a root type. -/
def rootName : Decoder String :=
  Fields.decode "struct RawRootRef" 1 (neededField 0 "name" Decode.string)

/-- Decodes an introspection result without envelopes. -/
def Document.decode : Decoder Document :=
  Fields.decode "struct RawSchema" 4
    (Document.mk
      <$> optionalField 0 "queryType" rootName
      <*> optionalField 1 "mutationType" rootName
      <*> optionalField 2 "subscriptionType" rootName
      <*> neededField 3 "types" (Decode.list TypeDecl.decode))

/-- The result inside the envelopes `data` and `__schema`, of which either may be missing. -/
def openEnvelopes (json : Json) : Json :=
  let json := (json.member? "data").getD json
  (json.member? "__schema").getD json

/-- The introspection result that a JSON value holds. -/
def Document.ofJson (json : Json) : Except SchemaError Document :=
  match openEnvelopes json with
  | .object members =>
    (Document.decode (.object members)).mapError fun e =>
      .format (pathText e.path) (.mismatch e.mismatch)
  | _ => .error (.format "." .notASchema)

end Schema
end QueryBuilder
