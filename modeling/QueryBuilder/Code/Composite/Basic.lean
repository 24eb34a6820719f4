import QueryBuilder.Code.Names
import QueryBuilder.Code.TypeExpr
import QueryBuilder.Query.Operation

/-!
# What is generated for a composite type

An object, interface or union becomes a response model, whose methods read fields, and a selection
builder, whose methods select them.  This file decides what these hold; how it is written is the
matter of `QueryBuilder.Code.Composite.Print`.

* `Accessor` — the two methods of the model that read a field.
* `Selector`, `Parameter` — the two methods of the builder that select a field, and their
  parameters.
* `Member` — a possible type of an interface or union.
* `Composite.ofType` — all of it.  Fields that mention a type which is not generated are left out.
-/

set_option autoImplicit false

namespace QueryBuilder
namespace Code

open Schema

/-! ## Which types are there -/

/-- Whether generated code defines the type at an address: it is a scalar or has a unit. -/
def isKnown (g : TypeGraph) (options : Options) (id : TypeId) : Bool :=
  match g.get? id with
  | some t => t.kind == .scalar || options.emits t
  | none => false

/-- Whether generated code defines every type that a field mentions. -/
def isUsable (g : TypeGraph) (options : Options) (f : Field) : Bool :=
  isKnown g options f.type.namedType
    && f.arguments.all fun a => isKnown g options a.type.namedType

/-! ## Parts -/

/-- The methods that read a field from a response. -/
structure Accessor where
  /-- The name of the field in the schema. -/
  field : String
  method : String
  /-- The method that reads the field under any key. -/
  keyedMethod : String
  type : TypeExpr
  required : Bool
  description? : Option String
  deprecation? : Option Deprecation
  deriving Repr, DecidableEq

/-- A parameter of a builder method. -/
structure Parameter where
  /-- The name of the argument in the schema. -/
  argument : String
  ident : String
  type : TypeExpr
  required : Bool
  description? : Option String
  default? : Option String
  deriving Repr, DecidableEq

/-- The methods that select a field. -/
structure Selector where
  /-- The name of the field in the schema. -/
  field : String
  method : String
  /-- The method that answers with the response key of the occurrence. -/
  keyedMethod : String
  parameters : List Parameter
  /-- The builder of nested selections, if the field has any. -/
  nested? : Option String
  description? : Option String
  deprecation? : Option Deprecation
  deriving Repr, DecidableEq

/-- A possible type of an interface or union. -/
structure Member where
  /-- The name of the type in the schema. -/
  typeName : String
  ident : String
  /-- The variant that holds an object of the type. -/
  variant : String
  builder : String
  /-- The builder method that selects fields of the type. -/
  method : String
  deriving Repr, DecidableEq

/-- What is generated for a composite type. -/
structure Composite where
  kind : TypeKind
  /-- The name of the type in the schema. -/
  typeName : String
  description? : Option String
  ident : String
  builder : String
  variants? : Option String
  accessors : List Accessor
  selectors : List Selector
  members : List Member
  /-- The operations that start on the type. -/
  roots : List Query.OperationKind
  deriving Repr, DecidableEq

/-! ## Fields -/

/-- The names of two methods for each of some fields, from one scope: first one method for every
field, then the other, whose name has an ending. -/
def claimMethods (scope : Name.Scope) (ending : String) (fields : List Field) :
    List (Field × String × String) × Name.Scope :=
  let (plain, scope) := scope.claimAll (fields.map (·.name))
  let (keyed, scope) := scope.claimAll (fields.map (·.name ++ ending))
  (fields.zip (plain.zip keyed), scope)

/-- The methods that read a field. -/
def Accessor.ofField (names : Names) (f : Field) (method keyedMethod : String) : Accessor where
  field := f.name
  method
  keyedMethod
  type := .ofRef names.ident false f.type
  required := f.type.isNonNull
  description? := f.description?
  deprecation? := f.deprecation?

/-- The methods that read some fields. -/
def Accessor.ofFields (names : Names) (fields : List Field) : List Accessor :=
  let scope := Name.Scope.ofReserved .snake ["typename", "variant", "response"]
  (claimMethods scope "_at" fields).1.map fun (f, method, keyed) =>
    Accessor.ofField names f method keyed

/-- The parameter for an argument. -/
def Parameter.ofArgument (names : Names) (a : InputValue) (ident : String) : Parameter where
  argument := a.name
  ident
  type := .ofRef names.ident false a.type
  required := a.type.isNonNull
  description? := a.description?
  default? := a.default?

/-- The parameters for the arguments of a field. -/
def Parameter.ofArguments (names : Names) (arguments : List InputValue) : List Parameter :=
  let scope := Name.Scope.ofReserved .snake ["build", "arguments", "self"]
  let (idents, _) := scope.claimAll (arguments.map (·.name))
  (arguments.zip idents).map fun (a, ident) => Parameter.ofArgument names a ident

/-- The builder of nested selections for a type, if it is composite. -/
def nestedBuilder? (g : TypeGraph) (names : Names) (id : TypeId) : Option String :=
  if (g.kindOf? id).any (·.isComposite) then some (names.builder id) else none

/-- The methods that select a field. -/
def Selector.ofField (g : TypeGraph) (names : Names) (f : Field) (method keyedMethod : String) :
    Selector where
  field := f.name
  method
  keyedMethod
  parameters := Parameter.ofArguments names f.arguments
  nested? := nestedBuilder? g names f.type.namedType
  description? := f.description?
  deprecation? := f.deprecation?

/-- The scope of the methods of a builder. -/
def builderScope : Name.Scope :=
  .ofReserved .snake ["typename", "into_selection", "default"]

/-- The methods that select some fields. -/
def Selector.ofFields (g : TypeGraph) (names : Names) (fields : List Field) : List Selector :=
  (claimMethods builderScope "_keyed" fields).1.map fun (f, method, keyed) =>
    Selector.ofField g names f method keyed

/-! ## Possible types -/

/-- The possible types of a type that have a selection builder. -/
def memberIds (names : Names) (t : NamedType) : List TypeId :=
  t.possibleTypes.filter fun id => (names.builder? id).isSome

/-- The possible types of a type.  Their builder methods are named after those of its fields. -/
def Member.ofType (g : TypeGraph) (names : Names) (t : NamedType) (fields : List Field) :
    List Member :=
  let ids := memberIds names t
  let (variants, _) := (Name.Scope.ofReserved .pascal []).claimAll (ids.map g.nameOf)
  let (_, scope) := claimMethods builderScope "_keyed" fields
  let (methods, _) := scope.claimAll (ids.map fun id => "on_" ++ Name.snake (g.nameOf id))
  (ids.zip (variants.zip methods)).map fun (id, variant, method) =>
    { typeName := g.nameOf id, ident := names.ident id, variant, builder := names.builder id,
      method }

/-! ## Types -/

/-- The operations that start on a type. -/
def rootsOn (g : TypeGraph) (id : TypeId) : List Query.OperationKind :=
  (if g.roots.query? = some id then [.query] else [])
    ++ (if g.roots.mutation? = some id then [.mutation] else [])
    ++ (if g.roots.subscription? = some id then [.subscription] else [])

/-- What is generated for a composite type. -/
def Composite.ofType (g : TypeGraph) (options : Options) (names : Names) (id : TypeId)
    (t : NamedType) : Composite :=
  let fields := t.fields.filter (isUsable g options)
  { kind := t.kind
    typeName := t.name
    description? := t.description?
    ident := names.ident id
    builder := names.builder id
    variants? := (names.get? id).bind (·.variants?)
    accessors := Accessor.ofFields names fields
    selectors := Selector.ofFields g names fields
    members := Member.ofType g names t fields
    roots := rootsOn g id }

end Code
end QueryBuilder
