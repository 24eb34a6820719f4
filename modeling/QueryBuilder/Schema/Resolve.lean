import QueryBuilder.Json.Document
import QueryBuilder.Schema.Document

/-!
# From documents to graphs

A type graph is built in two passes over the declared types.  The first registers every name with
an empty body; the second fills the bodies one after the other, resolving references against the
graph as it is by then.  References may therefore point forward, and back to their own type.

* `KindTag` — what a kind tag says: a kind of named type, or a wrapper.
* `declare` — the first pass.
* `resolveRef`, `resolveBody`, `resolveRoot` — the parts of the second pass.  They only look at
  the names and kinds of the types in the graph, which filling a body does not change.
* `fillBody` — a step of the second pass.
* `Document.resolve` — the graph of a document.
* `ofJson`, `ofText` — the graph of an introspection result.
-/

set_option autoImplicit false

namespace QueryBuilder
namespace Schema

/-- What a kind tag says. -/
inductive KindTag where
  | named (kind : TypeKind)
  | list
  | nonNull
  deriving Repr, DecidableEq

/-- The meaning of a kind tag, `none` for an unknown one. -/
def KindTag.ofText? : String → Option KindTag
  | "OBJECT" => some (.named .object)
  | "INTERFACE" => some (.named .interface)
  | "UNION" => some (.named .union)
  | "ENUM" => some (.named .enum)
  | "SCALAR" => some (.named .scalar)
  | "INPUT_OBJECT" => some (.named .inputObject)
  | "LIST" => some .list
  | "NON_NULL" => some .nonNull
  | _ => none

/-- The meaning of a kind tag that stands at a location. -/
def KindTag.parse (kind location : String) : Except SchemaError KindTag :=
  match KindTag.ofText? kind with
  | some tag => .ok tag
  | none => .error (.unknownKind kind location)

/-! ## The first pass -/

/-- The kind of the type declared at a place of the type list. -/
def declaredKind (index : Nat) (decl : TypeDecl) : Except SchemaError TypeKind := do
  match ← KindTag.parse decl.kind s!"types[{index}].kind" with
  | .named kind => return kind
  | .list | .nonNull => .error (.format s!"types[{index}].kind" (.wrapperDeclaration decl.kind))

/-- Registers declared types in a graph, the first of them being number `index` of the list, and
returns their addresses. -/
def declareFrom (index : Nat) (g : TypeGraph) :
    List TypeDecl → Except SchemaError (List TypeId × TypeGraph)
  | [] => .ok ([], g)
  | decl :: rest => do
    let kind ← declaredKind index decl
    match g.register decl.name decl.description? kind with
    | .error e => .error (.format s!"types[{index}].name" (.register e))
    | .ok (id, g) =>
      let (ids, g) ← declareFrom (index + 1) g rest
      return (id :: ids, g)

/-- The addresses of the declared types, and their graph with empty bodies. -/
def declare (types : List TypeDecl) : Except SchemaError (List TypeId × TypeGraph) :=
  declareFrom 0 .empty types

/-! ## The second pass -/

/-- The first name that occurs in a list before. -/
def firstDuplicate? : List String → Option String
  | names => go [] names
where
  go (seen : List String) : List String → Option String
    | [] => none
    | name :: rest => if seen.contains name then some name else go (name :: seen) rest

/-- Refuses an owner two of whose members have the same name. -/
def ensureUnique (owner : String) (names : List String) : Except SchemaError Unit :=
  match firstDuplicate? names with
  | some name => .error (.format owner (.duplicateMember name))
  | none => .ok ()

/-- The address of a type that must have a certain kind. -/
def resolveName (g : TypeGraph) (referrer name : String) (expected : TypeKind) :
    Except SchemaError TypeId :=
  match g.lookup name with
  | none => .error (.reference referrer name)
  | some id =>
    match g.kindOf? id with
    | none => .error (.reference referrer name)
    | some actual =>
      if actual = expected then .ok id else .error (.kindMismatch referrer name expected actual)

/-- The type that a reference names. -/
def resolveNamed (g : TypeGraph) (referrer : String) (kind : TypeKind) (name? : Option String) :
    Except SchemaError TypeRef :=
  match name? with
  | none => .error (.format referrer (.namelessReference kind))
  | some name => TypeRef.named <$> resolveName g referrer name kind

/-- Puts a non-null marker around a reference. -/
def wrapNonNull (referrer : String) (inner : TypeRef) : Except SchemaError TypeRef :=
  if inner.isNonNull then .error (.format referrer .doubleNonNull) else .ok (.nonNull inner)

/-- Resolves a reference. -/
def resolveRef (g : TypeGraph) (referrer : String) : RefDecl → Except SchemaError TypeRef
  | .plain kind name? => do
    match ← KindTag.parse kind referrer with
    | .named expected => resolveNamed g referrer expected name?
    | .list | .nonNull => .error (.format referrer (.emptyWrapper kind))
  | .wrapping kind name? inner => do
    match ← KindTag.parse kind referrer with
    | .named expected => resolveNamed g referrer expected name?
    | .list => TypeRef.list <$> resolveRef g referrer inner
    | .nonNull => wrapNonNull referrer (← resolveRef g referrer inner)

/-- Resolves an interface or possible type, which must not be wrapped. -/
def resolveMember (g : TypeGraph) (owner : String) (decl : RefDecl) :
    Except SchemaError TypeId := do
  match ← resolveRef g owner decl with
  | .named id => return id
  | .list _ | .nonNull _ => .error (.format owner .wrappedMember)

/-- Resolves interfaces or possible types. -/
def resolveMembers (g : TypeGraph) (owner : String) (decls? : Option (List RefDecl)) :
    Except SchemaError (List TypeId) :=
  (decls?.getD []).mapM (resolveMember g owner)

/-- Resolves an argument or input field. -/
def resolveInput (g : TypeGraph) (owner : String) (decl : InputDecl) :
    Except SchemaError InputValue := do
  let type ← resolveRef g s!"{owner}({decl.name})" decl.type
  return ⟨decl.name, decl.description?, type, decl.default?⟩

/-- Resolves arguments or input fields. -/
def resolveInputs (g : TypeGraph) (owner : String) (decls? : Option (List InputDecl)) :
    Except SchemaError (List InputValue) := do
  let decls := decls?.getD []
  ensureUnique owner (decls.map (·.name))
  decls.mapM (resolveInput g owner)

/-- The deprecation marker that two declared members say. -/
def deprecationOf (isDeprecated : Bool) (reason? : Option String) : Option Deprecation :=
  if isDeprecated then some ⟨reason?⟩ else none

/-- Resolves a field. -/
def resolveField (g : TypeGraph) (owner : String) (decl : FieldDecl) :
    Except SchemaError Field := do
  let referrer := s!"{owner}.{decl.name}"
  let type ← resolveRef g referrer decl.type
  let arguments ← resolveInputs g referrer decl.args?
  return ⟨decl.name, decl.description?, type, arguments,
    deprecationOf decl.isDeprecated decl.deprecationReason?⟩

/-- Resolves the fields of a type. -/
def resolveFields (g : TypeGraph) (owner : String) (decls? : Option (List FieldDecl)) :
    Except SchemaError (List Field) := do
  let decls := decls?.getD []
  ensureUnique owner (decls.map (·.name))
  decls.mapM (resolveField g owner)

/-- The values of an enum. -/
def resolveEnumValues (owner : String) (decls? : Option (List EnumValueDecl)) :
    Except SchemaError (List EnumValue) := do
  let decls := decls?.getD []
  ensureUnique owner (decls.map (·.name))
  return decls.map fun decl =>
    ⟨decl.name, decl.description?, deprecationOf decl.isDeprecated decl.deprecationReason?⟩

/-- The body of a declared type.  Only the members that belong to its kind are read. -/
def resolveBody (g : TypeGraph) (decl : TypeDecl) : TypeKind → Except SchemaError TypeBody
  | .object => do
    let fields ← resolveFields g decl.name decl.fields?
    return .object fields (← resolveMembers g decl.name decl.interfaces?)
  | .interface => do
    let fields ← resolveFields g decl.name decl.fields?
    return .interface fields (← resolveMembers g decl.name decl.possibleTypes?)
  | .union => TypeBody.union <$> resolveMembers g decl.name decl.possibleTypes?
  | .enum => TypeBody.enum <$> resolveEnumValues decl.name decl.enumValues?
  | .scalar => return .scalar none
  | .inputObject => TypeBody.inputObject <$> resolveInputs g decl.name decl.inputFields?

/-- Gives the type at an address the body of its declaration. -/
def fillBody (g : TypeGraph) (decl : TypeDecl) (id : TypeId) : Except SchemaError TypeGraph :=
  match g.kindOf? id with
  | none => .ok g
  | some kind => g.setBody id <$> resolveBody g decl kind

/-- Gives the types at a list of addresses the bodies of their declarations, one after the
other. -/
def fillBodies (g : TypeGraph) : List (TypeDecl × TypeId) → Except SchemaError TypeGraph
  | [] => .ok g
  | (decl, id) :: rest => do fillBodies (← fillBody g decl id) rest

/-- The root type with a name, which must be an object. -/
def resolveRoot (g : TypeGraph) (key : String) : Option String → Except SchemaError (Option TypeId)
  | none => .ok none
  | some name => some <$> resolveName g key name .object

/-- The root types of a document. -/
def resolveRoots (g : TypeGraph) (doc : Document) : Except SchemaError RootTypes := do
  let query? ← resolveRoot g "queryType" doc.query?
  let mutation? ← resolveRoot g "mutationType" doc.mutation?
  let subscription? ← resolveRoot g "subscriptionType" doc.subscription?
  return ⟨query?, mutation?, subscription?⟩

/-- The graph of a document. -/
def Document.resolve (doc : Document) : Except SchemaError TypeGraph := do
  let (ids, declared) ← declare doc.types
  let filled ← fillBodies declared (doc.types.zip ids)
  return { filled with roots := ← resolveRoots filled doc }

/-! ## Introspection results -/

/-- The graph of an introspection result. -/
def ofJson (json : Json) : Except SchemaError TypeGraph := do
  (← Document.ofJson json).resolve

/-- The graph of the text of an introspection result. -/
def ofText (text : String) : Except SchemaError TypeGraph :=
  match Json.parse text with
  | .error e => .error (.json e)
  | .ok json => ofJson json

end Schema
end QueryBuilder
