import QueryBuilder.Code.Options
import QueryBuilder.Name.Scope

/-!
# Identifiers of a generated module

Types, selection builders, variant enums and the modules of units share one namespace, because the
root of the generated module re-exports every unit.  All of them are claimed from one scope, in
three rounds over the types: first the types themselves, then what belongs to composite types, then
the modules.

* `TypeNames` — the identifiers of one type.
* `Names.ofGraph` — the identifiers of all types.
-/

set_option autoImplicit false

namespace QueryBuilder
namespace Code

open Schema

/-- The names that generated code must not shadow. -/
def reservedNames : List String := [
  "Option", "Some", "None", "Result", "Ok", "Err", "Vec", "Box", "Default", "From", "Into", "Clone",
  "Copy", "Debug", "PartialEq", "Eq", "Hash", "Fn", "FnMut", "FnOnce", "Send", "Sync", "Sized",
  "Iterator", "IntoIterator", "ToString", "str", "bool", "char", "i8", "i16", "i32", "i64", "i128",
  "isize", "u8", "u16", "u32", "u64", "u128", "usize", "f32", "f64", "std", "core", "alloc",
  "serde", "aliases"]

/-- The identifiers of one type. -/
structure TypeNames where
  /-- The type itself, or the alias of a scalar. -/
  ident : String
  /-- The selection builder of a composite type. -/
  builder? : Option String
  /-- The enum of the possible types of an interface or union. -/
  variants? : Option String
  /-- The module of a type that has a unit. -/
  module? : Option String
  deriving Repr, DecidableEq

/-- The identifiers of all types, in the order of their addresses. -/
structure Names where
  types : List TypeNames
  deriving Repr, DecidableEq

namespace Names

/-- The scope in which nothing is claimed yet. -/
def startScope : Name.Scope :=
  .ofReserved .verbatim (builtinScalars ++ reservedNames)

/-- The identifier of a type.  Built-in scalars and types without a unit keep their name. -/
def claimIdent (options : Options) (scope : Name.Scope) (t : NamedType) : String × Name.Scope :=
  if t.isBuiltinScalar then (t.name, scope)
  else if options.emits t || t.kind == .scalar then scope.claim t.name
  else (t.name, scope)

/-- An identifier as a stem of other identifiers: without raw marks. -/
def stem (ident : String) : String :=
  String.ofList (dropMarks ident.toList)
where
  dropMarks : List Char → List Char
    | 'r' :: '#' :: rest => dropMarks rest
    | cs => cs

/-- The selection builder and the variant enum of a type, as far as it has them. -/
def claimParts (options : Options) (scope : Name.Scope) (t : NamedType) (ident : String) :
    (Option String × Option String) × Name.Scope :=
  if options.emits t && t.kind.isComposite then
    let (builder, scope) := scope.claim (stem ident ++ "Selection")
    if t.kind.isAbstract then
      let (variants, scope) := scope.claim (stem ident ++ "Variant")
      ((some builder, some variants), scope)
    else ((some builder, none), scope)
  else ((none, none), scope)

/-- What the module of a type is called if nothing else is called so: its name in snake case, kept
off keywords by an underscore. -/
def moduleBase (t : NamedType) : String :=
  let base := Name.snake t.name
  if Name.escape base = base then base else base ++ "_"

/-- The module of a type, if it has a unit. -/
def claimModule (options : Options) (scope : Name.Scope) (t : NamedType) :
    Option String × Name.Scope :=
  if options.emits t then
    let (module, scope) := scope.claim (moduleBase t)
    (some module, scope)
  else (none, scope)

/-- One round over a list: a claim for each element, one after the other. -/
def round {α β : Type} (claim : Name.Scope → α → β × Name.Scope) (scope : Name.Scope) :
    List α → List β × Name.Scope
  | [] => ([], scope)
  | a :: rest =>
    let (b, scope) := claim scope a
    let (bs, scope) := round claim scope rest
    (b :: bs, scope)

/-- The identifiers of the types of a graph. -/
def ofGraph (g : TypeGraph) (options : Options) : Names :=
  let (idents, scope) := round (claimIdent options) startScope g.types
  let (parts, scope) :=
    round (fun scope (t, ident) => claimParts options scope t ident) scope (g.types.zip idents)
  let (modules, _) := round (claimModule options) scope g.types
  ⟨(idents.zip (parts.zip modules)).map fun (ident, (builder?, variants?), module?) =>
    { ident, builder?, variants?, module? }⟩

/-- The identifiers of the type at an address. -/
def get? (names : Names) (id : TypeId) : Option TypeNames :=
  names.types[id.index]?

/-- The identifier of the type at an address. -/
def ident (names : Names) (id : TypeId) : String :=
  match names.get? id with
  | some n => n.ident
  | none => ""

/-- The selection builder of the type at an address, `none` for a type without one. -/
def builder? (names : Names) (id : TypeId) : Option String :=
  (names.get? id).bind (·.builder?)

/-- The selection builder of a type, or the type itself where there is none. -/
def builder (names : Names) (id : TypeId) : String :=
  (names.builder? id).getD (names.ident id)

end Names

end Code
end QueryBuilder
