import QueryBuilder.Path

/-!
# The type graph

The named types of a schema.  A type is addressed by its `TypeId`, its place in the order of
registration, and every cross reference is such an address, so the graph is a list although the
schema is cyclic.

* `TypeRef` — a reference to a named type, wrapped in lists and non-null markers.
* `NamedType`, `TypeBody` — a type and what its kind adds to it.
* `TypeGraph` — the types and the roots; `TypeGraph.register` adds a type with an empty body.
* `TypeGraph.references` — every type that the body of a type mentions.
-/

set_option autoImplicit false

namespace QueryBuilder
namespace Schema

/-- The scalars that every schema provides. -/
def builtinScalars : List String := ["Int", "Float", "String", "Boolean", "ID"]

/-- The address of a named type. -/
structure TypeId where
  index : Nat
  deriving Repr, DecidableEq

/-- The kind of a named type. -/
inductive TypeKind where
  | object
  | interface
  | union
  | enum
  | scalar
  | inputObject
  deriving Repr, DecidableEq

namespace TypeKind

/-- The tag of a kind in introspection results. -/
def tag : TypeKind → String
  | .object => "OBJECT"
  | .interface => "INTERFACE"
  | .union => "UNION"
  | .enum => "ENUM"
  | .scalar => "SCALAR"
  | .inputObject => "INPUT_OBJECT"

/-- Whether values of the kind are selected through a nested selection set. -/
def isComposite : TypeKind → Bool
  | .object | .interface | .union => true
  | .enum | .scalar | .inputObject => false

/-- Whether the type of a value is only known from the response. -/
def isAbstract : TypeKind → Bool
  | .interface | .union => true
  | .object | .enum | .scalar | .inputObject => false

end TypeKind

/-- A reference to a named type. -/
inductive TypeRef where
  | named (id : TypeId)
  | list (inner : TypeRef)
  | nonNull (inner : TypeRef)
  deriving Repr, DecidableEq

namespace TypeRef

/-- The named type that is wrapped. -/
def namedType : TypeRef → TypeId
  | .named id => id
  | .list inner | .nonNull inner => inner.namedType

/-- Whether the outermost wrapper is a non-null marker. -/
def isNonNull : TypeRef → Bool
  | .nonNull _ => true
  | .named _ | .list _ => false

/-- Whether a list wraps the named type. -/
def containsList : TypeRef → Bool
  | .named _ => false
  | .list _ => true
  | .nonNull inner => inner.containsList

end TypeRef

/-- The marker of a deprecated field or enum value. -/
structure Deprecation where
  reason? : Option String
  deriving Repr, DecidableEq

/-- An argument, or a field of an input object. -/
structure InputValue where
  name : String
  description? : Option String
  type : TypeRef
  /-- The default value, as a literal. -/
  default? : Option String
  deriving Repr, DecidableEq

/-- A field of an object or interface. -/
structure Field where
  name : String
  description? : Option String
  type : TypeRef
  arguments : List InputValue
  deprecation? : Option Deprecation
  deriving Repr, DecidableEq

/-- A value of an enum. -/
structure EnumValue where
  name : String
  description? : Option String
  deprecation? : Option Deprecation
  deriving Repr, DecidableEq

/-- Where the source of a custom scalar comes from. -/
inductive ScalarSource where
  /-- The source itself. -/
  | inline (text : String)
  /-- The file that holds the source. -/
  | file (path : Path)
  deriving Repr, DecidableEq

/-- What the kind of a type adds to it. -/
inductive TypeBody where
  | object (fields : List Field) (interfaces : List TypeId)
  | interface (fields : List Field) (possibleTypes : List TypeId)
  | union (possibleTypes : List TypeId)
  | enum (values : List EnumValue)
  | scalar (source? : Option ScalarSource)
  | inputObject (inputFields : List InputValue)
  deriving Repr, DecidableEq

namespace TypeBody

/-- The body of a kind that holds nothing. -/
def empty : TypeKind → TypeBody
  | .object => .object [] []
  | .interface => .interface [] []
  | .union => .union []
  | .enum => .enum []
  | .scalar => .scalar none
  | .inputObject => .inputObject []

/-- The kind of a body. -/
def kind : TypeBody → TypeKind
  | .object .. => .object
  | .interface .. => .interface
  | .union .. => .union
  | .enum .. => .enum
  | .scalar .. => .scalar
  | .inputObject .. => .inputObject

/-- The types that a list of fields mentions: of each field its own and those of its arguments. -/
def fieldReferences (fields : List Field) : List TypeId :=
  fields.flatMap fun f => f.type.namedType :: f.arguments.map (·.type.namedType)

/-- The types that a body mentions. -/
def references : TypeBody → List TypeId
  | .object fields interfaces => fieldReferences fields ++ interfaces
  | .interface fields possibleTypes => fieldReferences fields ++ possibleTypes
  | .union possibleTypes => possibleTypes
  | .inputObject inputFields => inputFields.map (·.type.namedType)
  | .enum _ | .scalar _ => []

end TypeBody

/-- A named type. -/
structure NamedType where
  name : String
  description? : Option String
  body : TypeBody
  deriving Repr, DecidableEq

namespace NamedType

/-- The kind of a type. -/
def kind (t : NamedType) : TypeKind :=
  t.body.kind

/-- The fields of an object or interface; other types have none. -/
def fields (t : NamedType) : List Field :=
  match t.body with
  | .object fields _ | .interface fields _ => fields
  | _ => []

/-- The possible types of an interface or union; other types have none. -/
def possibleTypes (t : NamedType) : List TypeId :=
  match t.body with
  | .interface _ possibleTypes | .union possibleTypes => possibleTypes
  | _ => []

/-- The source that overrides a scalar, if there is one. -/
def scalarSource? (t : NamedType) : Option ScalarSource :=
  match t.body with
  | .scalar source? => source?
  | _ => none

/-- Whether the type is one of the scalars that every schema provides. -/
def isBuiltinScalar (t : NamedType) : Bool :=
  t.kind == .scalar && builtinScalars.contains t.name

/-- Whether the type describes schemas themselves: its name starts with two underscores. -/
def isIntrospection (t : NamedType) : Bool :=
  "__".toList.isPrefixOf t.name.toList

end NamedType

/-- The types on which operations start. -/
structure RootTypes where
  query? : Option TypeId
  mutation? : Option TypeId
  subscription? : Option TypeId
  deriving Repr, DecidableEq

/-- Why a type cannot be registered. -/
inductive RegisterError where
  | duplicate (name : String)
  /-- There is no address left for the type with this number. -/
  | capacity (index : Nat)
  deriving Repr, DecidableEq

/-- The wording of an error. -/
def RegisterError.message : RegisterError → String
  | .duplicate name => s!"duplicate type name `{name}`"
  | .capacity index => s!"too many types: cannot register type number {index}"

/-- The named types of a schema, in the order of registration, and its roots. -/
structure TypeGraph where
  types : List NamedType
  roots : RootTypes
  deriving Repr, DecidableEq

namespace TypeGraph

/-- The graph without types. -/
def empty : TypeGraph := ⟨[], ⟨none, none, none⟩⟩

/-- The number of types that a graph has addresses for: an address is a 32-bit number. -/
def capacity : Nat := UInt32.size

/-- The address of the type with a name. -/
def lookup (g : TypeGraph) (name : String) : Option TypeId :=
  (g.types.findIdx? (fun t => t.name == name)).map TypeId.mk

/-- Adds a type with an empty body. -/
def register (g : TypeGraph) (name : String) (description? : Option String) (kind : TypeKind) :
    Except RegisterError (TypeId × TypeGraph) :=
  match g.lookup name with
  | some _ => .error (.duplicate name)
  | none =>
    if g.types.length < capacity then
      .ok (⟨g.types.length⟩, { g with types := g.types ++ [⟨name, description?, .empty kind⟩] })
    else .error (.capacity g.types.length)

/-- The type at an address. -/
def get? (g : TypeGraph) (id : TypeId) : Option NamedType :=
  g.types[id.index]?

/-- The name of the type at an address, empty where there is none. -/
def nameOf (g : TypeGraph) (id : TypeId) : String :=
  match g.get? id with
  | some t => t.name
  | none => ""

/-- The kind of the type at an address. -/
def kindOf? (g : TypeGraph) (id : TypeId) : Option TypeKind :=
  (g.get? id).map (·.kind)

/-- The type with a name. -/
def byName? (g : TypeGraph) (name : String) : Option NamedType :=
  (g.lookup name).bind g.get?

/-- The types with their addresses, in the order of registration. -/
def entries (g : TypeGraph) : List (TypeId × NamedType) :=
  g.types.zipIdx.map fun (t, i) => (⟨i⟩, t)

/-- The types that the type at an address mentions. -/
def references (g : TypeGraph) (id : TypeId) : List TypeId :=
  match g.get? id with
  | some t => t.body.references
  | none => []

/-- Changes the type at an address. -/
def modify (g : TypeGraph) (id : TypeId) (change : NamedType → NamedType) : TypeGraph :=
  { g with types := g.types.modify id.index change }

/-- Replaces the body of the type at an address. -/
def setBody (g : TypeGraph) (id : TypeId) (body : TypeBody) : TypeGraph :=
  g.modify id fun t => { t with body }

/-- The text of a reference, such as `[ID!]!`. -/
def refText (g : TypeGraph) : TypeRef → String
  | .named id => g.nameOf id
  | .list inner => "[" ++ g.refText inner ++ "]"
  | .nonNull inner => g.refText inner ++ "!"

end TypeGraph

end Schema
end QueryBuilder
