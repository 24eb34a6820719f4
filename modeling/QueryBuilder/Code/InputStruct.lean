import QueryBuilder.Code.Composite.Print

/-!
# What is generated for an input object

An input object becomes a struct with a member for each field.  A field that holds an input object
by value is boxed, so that types which contain each other have a finite size; behind a list there
is no need to.

* `InputStruct.ofType` — the members.  Fields of a type that is not generated are left out.
* `InputStruct.lines` — the unit below its header.
-/

set_option autoImplicit false

namespace QueryBuilder
namespace Code

open Schema

/-- A member of a generated struct. -/
structure StructMember where
  ident : String
  /-- The name of the field in the schema. -/
  field : String
  type : TypeExpr
  required : Bool
  description? : Option String
  deriving Repr, DecidableEq

/-- What is generated for an input object. -/
structure InputStruct where
  description? : Option String
  ident : String
  members : List StructMember
  deriving Repr, DecidableEq

/-- Whether a field holds an input object by value. -/
def holdsInputObject (g : TypeGraph) (ref : TypeRef) : Bool :=
  !ref.containsList && g.kindOf? ref.namedType == some .inputObject

/-- The member for a field. -/
def StructMember.ofField (g : TypeGraph) (names : Names) (f : InputValue) (ident : String) :
    StructMember where
  ident
  field := f.name
  type := .ofRef names.ident (holdsInputObject g f.type) f.type
  required := f.type.isNonNull
  description? := f.description?

/-- What is generated for an input object with some fields. -/
def InputStruct.ofType (g : TypeGraph) (options : Options) (names : Names) (id : TypeId)
    (t : NamedType) (fields : List InputValue) : InputStruct :=
  let fields := fields.filter fun f => isKnown g options f.type.namedType
  let (idents, _) :=
    (Name.Scope.ofReserved .snake ["self"]).claimAll (fields.map (·.name))
  { description? := t.description?
    ident := names.ident id
    members := (fields.zip idents).map fun (f, ident) => StructMember.ofField g names f ident }

/-- The declaration of a member. -/
def StructMember.lines (m : StructMember) : List Line :=
  docLines m.description? ++ [line s!"pub {m.ident}: {m.type.print},"]

/-- The line that sets the field of a member. -/
def StructMember.setterLine (m : StructMember) : Line :=
  let setter := if m.required then "field" else "optional_field"
  let field := Text.quoted m.field
  line s!".{setter}({field}, self.{m.ident})"

/-- The unit of an input object below its header. -/
def InputStruct.lines (s : InputStruct) : List Line :=
  [line "use super::*;", blank]
    ++ docLines s.description?
    ++ [line "#[derive(Debug, Clone)]"]
    ++ braced s!"pub struct {s.ident}" (s.members.flatMap StructMember.lines)
    ++ [blank]
    ++ braced s!"impl {support}::IntoValue for {s.ident}"
      (braced s!"fn into_value(self) -> {support}::Value"
        (line s!"{support}::ObjectValue::new()"
          :: indent (s.members.map StructMember.setterLine ++ [line ".build()"])))

end Code
end QueryBuilder
