import Mathlib.Data.List.Forall2
import QueryBuilder.Schema.Document

/-!
# Well-formed documents, and the graphs that mirror them

What an introspection document has to satisfy, and what its type graph has to say, written down
without the two passes that build the graph.

## What is here

* `Document.Declares`, `Document.DeclaresAt` — a type is declared with a name and a kind, somewhere
  or at an address.
* `RefDecl.WellFormed`, `RefDecl.Denotes` — which chains of references are sound, and which
  reference a chain stands for.
* `TypeDecl.WellFormed`, `TypeDecl.Denotes` — the same for a declared type.  Both look at the
  members that its kind reads and at no others.
* `Document.WellFormed`, `TypeGraph.Mirrors` — the same for a whole document.
* `Document.WellFormed.exists_mirrors` — some graph mirrors every well-formed document, so the two
  descriptions fit together.
-/

set_option autoImplicit false

namespace QueryBuilder
namespace Schema

/-! ## Declared names -/

/-- A type with the name and the kind is declared. -/
def Document.Declares (doc : Document) (name : String) (kind : TypeKind) : Prop :=
  ∃ decl ∈ doc.types, decl.name = name ∧ decl.kind = kind.tag

/-- The type declared at an address has the name and the kind. -/
def Document.DeclaresAt (doc : Document) (name : String) (kind : TypeKind) (id : TypeId) : Prop :=
  ∃ decl, doc.types[id.index]? = some decl ∧ decl.name = name ∧ decl.kind = kind.tag

theorem Document.declares_iff_exists_declaresAt {doc : Document} {name : String}
    {kind : TypeKind} : doc.Declares name kind ↔ ∃ id, doc.DeclaresAt name kind id := by
  constructor
  · rintro ⟨decl, hmem, hdecl⟩
    obtain ⟨i, hi⟩ := List.mem_iff_getElem?.1 hmem
    exact ⟨⟨i⟩, decl, hi, hdecl⟩
  · rintro ⟨id, decl, hget, hdecl⟩
    exact ⟨decl, List.mem_of_getElem? hget, hdecl⟩

/-! ## References -/

/-- The kind tag at the outer end of a chain. -/
def RefDecl.kind : RefDecl → String
  | .plain kind _ | .wrapping kind _ _ => kind

/-- The name at the outer end of a chain. -/
def RefDecl.name? : RefDecl → Option String
  | .plain _ name? | .wrapping _ name? _ => name?

/-- The chain consists of wrappers that have something inside and ends in the name of a type that
is declared with exactly the kind of its tag; no non-null marker stands directly around another.
What stands behind a named tag is not part of the chain. -/
inductive RefDecl.WellFormed (doc : Document) : RefDecl → Prop
  | named {decl : RefDecl} {kind : TypeKind} {name : String} (hkind : decl.kind = kind.tag)
      (hname : decl.name? = some name) (h : doc.Declares name kind) : RefDecl.WellFormed doc decl
  | list {name? : Option String} {inner : RefDecl} (h : inner.WellFormed doc) :
      RefDecl.WellFormed doc (.wrapping "LIST" name? inner)
  | nonNull {name? : Option String} {inner : RefDecl} (hinner : inner.kind ≠ "NON_NULL")
      (h : inner.WellFormed doc) : RefDecl.WellFormed doc (.wrapping "NON_NULL" name? inner)

/-- The chain stands for the reference: the wrappers are the same, and the name at its end is that
of the type at the address. -/
inductive RefDecl.Denotes (doc : Document) : RefDecl → TypeRef → Prop
  | named {decl : RefDecl} {kind : TypeKind} {name : String} {id : TypeId}
      (hkind : decl.kind = kind.tag) (hname : decl.name? = some name)
      (h : doc.DeclaresAt name kind id) : RefDecl.Denotes doc decl (.named id)
  | list {name? : Option String} {inner : RefDecl} {ref : TypeRef} (h : inner.Denotes doc ref) :
      RefDecl.Denotes doc (.wrapping "LIST" name? inner) (.list ref)
  | nonNull {name? : Option String} {inner : RefDecl} {ref : TypeRef}
      (hinner : ref.isNonNull = false) (h : inner.Denotes doc ref) :
      RefDecl.Denotes doc (.wrapping "NON_NULL" name? inner) (.nonNull ref)

/-- An interface or possible type: a chain without wrappers. -/
def RefDecl.WellFormedMember (doc : Document) (decl : RefDecl) : Prop :=
  decl.WellFormed doc ∧ decl.kind ≠ "LIST" ∧ decl.kind ≠ "NON_NULL"

/-- The interface or possible type is the type at the address. -/
def RefDecl.DenotesMember (doc : Document) (decl : RefDecl) (id : TypeId) : Prop :=
  decl.Denotes doc (.named id)

theorem TypeKind.tag_ne_list (kind : TypeKind) : kind.tag ≠ "LIST" := by
  cases kind <;> decide

theorem TypeKind.tag_ne_nonNull (kind : TypeKind) : kind.tag ≠ "NON_NULL" := by
  cases kind <;> decide

theorem TypeKind.tag_injective {kind kind' : TypeKind} (h : kind.tag = kind'.tag) :
    kind = kind' := by
  cases kind <;> cases kind' <;> first | rfl | exact absurd h (by decide)

/-- A marker stands at the outer end of a chain exactly if one stands around the reference. -/
theorem RefDecl.Denotes.isNonNull_iff {doc : Document} {decl : RefDecl} {ref : TypeRef}
    (h : decl.Denotes doc ref) : ref.isNonNull = true ↔ decl.kind = "NON_NULL" := by
  cases h with
  | named hkind => simp [TypeRef.isNonNull, hkind, TypeKind.tag_ne_nonNull]
  | list => simp [TypeRef.isNonNull, RefDecl.kind]
  | nonNull => simp [TypeRef.isNonNull, RefDecl.kind]

theorem RefDecl.Denotes.wellFormed {doc : Document} {decl : RefDecl} {ref : TypeRef}
    (h : decl.Denotes doc ref) : decl.WellFormed doc := by
  induction h with
  | named hkind hname h =>
    exact .named hkind hname (Document.declares_iff_exists_declaresAt.2 ⟨_, h⟩)
  | list _ ih => exact .list ih
  | nonNull hinner h ih =>
    exact .nonNull (fun hkind ↦ by simp [h.isNonNull_iff.2 hkind] at hinner) ih

theorem RefDecl.WellFormed.exists_denotes {doc : Document} {decl : RefDecl}
    (h : decl.WellFormed doc) : ∃ ref, decl.Denotes doc ref := by
  induction h with
  | named hkind hname h =>
    obtain ⟨id, hid⟩ := Document.declares_iff_exists_declaresAt.1 h
    exact ⟨.named id, .named hkind hname hid⟩
  | list _ ih =>
    obtain ⟨ref, href⟩ := ih
    exact ⟨.list ref, .list href⟩
  | nonNull hinner _ ih =>
    obtain ⟨ref, href⟩ := ih
    exact ⟨.nonNull ref, .nonNull (Bool.eq_false_iff.2 (hinner ∘ href.isNonNull_iff.1)) href⟩

theorem RefDecl.DenotesMember.wellFormedMember {doc : Document} {decl : RefDecl} {id : TypeId}
    (h : decl.DenotesMember doc id) : decl.WellFormedMember doc := by
  refine ⟨h.wellFormed, ?_⟩
  cases h with
  | named hkind => exact ⟨hkind ▸ TypeKind.tag_ne_list _, hkind ▸ TypeKind.tag_ne_nonNull _⟩

theorem RefDecl.WellFormedMember.exists_denotesMember {doc : Document} {decl : RefDecl}
    (h : decl.WellFormedMember doc) : ∃ id, decl.DenotesMember doc id := by
  obtain ⟨ref, href⟩ := h.1.exists_denotes
  cases href with
  | named hkind hname hid => exact ⟨_, .named hkind hname hid⟩
  | list => exact absurd rfl h.2.1
  | nonNull => exact absurd rfl h.2.2

/-! ## Members -/

/-- If every entry of a list stands for something, so does the list, entry by entry. -/
theorem exists_forall₂ {α β : Type} {R : α → β → Prop} {l : List α} (h : ∀ a ∈ l, ∃ b, R a b) :
    ∃ m, List.Forall₂ R l m := by
  induction l with
  | nil => exact ⟨[], .nil⟩
  | cons a l ih =>
    obtain ⟨b, hb⟩ := h a List.mem_cons_self
    obtain ⟨m, hm⟩ := ih fun a' ha' ↦ h a' (List.mem_cons_of_mem a ha')
    exact ⟨b :: m, .cons hb hm⟩

/-- Arguments or input fields: their names are distinct and their types are sound. -/
structure InputDecl.WellFormedAll (doc : Document) (decls : List InputDecl) : Prop where
  names : (decls.map (·.name)).Nodup
  types : ∀ decl ∈ decls, decl.type.WellFormed doc

/-- The argument or input field says what was declared. -/
structure InputDecl.Denotes (doc : Document) (decl : InputDecl) (value : InputValue) : Prop where
  name : value.name = decl.name
  description : value.description? = decl.description?
  type : decl.type.Denotes doc value.type
  default : value.default? = decl.default?

/-- A field: its type and its arguments are sound. -/
structure FieldDecl.WellFormed (doc : Document) (decl : FieldDecl) : Prop where
  type : decl.type.WellFormed doc
  arguments : InputDecl.WellFormedAll doc (decl.args?.getD [])

/-- The fields of a type: their names are distinct and each of them is sound. -/
structure FieldDecl.WellFormedAll (doc : Document) (decls : List FieldDecl) : Prop where
  names : (decls.map (·.name)).Nodup
  fields : ∀ decl ∈ decls, decl.WellFormed doc

/-- The field says what was declared, and has the declared arguments in the declared order. -/
structure FieldDecl.Denotes (doc : Document) (decl : FieldDecl) (field : Field) : Prop where
  name : field.name = decl.name
  description : field.description? = decl.description?
  type : decl.type.Denotes doc field.type
  arguments : List.Forall₂ (InputDecl.Denotes doc) (decl.args?.getD []) field.arguments
  deprecation : field.deprecation? =
    if decl.isDeprecated then some ⟨decl.deprecationReason?⟩ else none

/-- The enum value says what was declared. -/
structure EnumValueDecl.Denotes (decl : EnumValueDecl) (value : EnumValue) : Prop where
  name : value.name = decl.name
  description : value.description? = decl.description?
  deprecation : value.deprecation? =
    if decl.isDeprecated then some ⟨decl.deprecationReason?⟩ else none

theorem InputDecl.WellFormedAll.exists_denotes {doc : Document} {decls : List InputDecl}
    (h : InputDecl.WellFormedAll doc decls) :
    ∃ values, List.Forall₂ (InputDecl.Denotes doc) decls values := by
  refine exists_forall₂ fun decl hmem ↦ ?_
  obtain ⟨type, htype⟩ := (h.types decl hmem).exists_denotes
  exact ⟨⟨decl.name, decl.description?, type, decl.default?⟩, rfl, rfl, htype, rfl⟩

theorem FieldDecl.WellFormedAll.exists_denotes {doc : Document} {decls : List FieldDecl}
    (h : FieldDecl.WellFormedAll doc decls) :
    ∃ fields, List.Forall₂ (FieldDecl.Denotes doc) decls fields := by
  refine exists_forall₂ fun decl hmem ↦ ?_
  obtain ⟨type, htype⟩ := (h.fields decl hmem).type.exists_denotes
  obtain ⟨arguments, harguments⟩ := (h.fields decl hmem).arguments.exists_denotes
  exact ⟨⟨decl.name, decl.description?, type, arguments, _⟩, rfl, rfl, htype, harguments, rfl⟩

theorem EnumValueDecl.exists_denotes (decls : List EnumValueDecl) :
    ∃ values, List.Forall₂ EnumValueDecl.Denotes decls values :=
  exists_forall₂ fun decl _ ↦ ⟨⟨decl.name, decl.description?, _⟩, rfl, rfl, rfl⟩

/-! ## Types -/

/-- The members that a declared type has as a type of a kind are sound.  The lists that belong to
other kinds are not looked at. -/
def TypeDecl.WellFormed (doc : Document) (decl : TypeDecl) : TypeKind → Prop
  | .object => FieldDecl.WellFormedAll doc (decl.fields?.getD [])
      ∧ ∀ member ∈ decl.interfaces?.getD [], member.WellFormedMember doc
  | .interface => FieldDecl.WellFormedAll doc (decl.fields?.getD [])
      ∧ ∀ member ∈ decl.possibleTypes?.getD [], member.WellFormedMember doc
  | .union => ∀ member ∈ decl.possibleTypes?.getD [], member.WellFormedMember doc
  | .enum => ((decl.enumValues?.getD []).map (·.name)).Nodup
  | .scalar => True
  | .inputObject => InputDecl.WellFormedAll doc (decl.inputFields?.getD [])

/-- The body holds the declared members of its kind in the declared order. -/
def TypeDecl.DenotesBody (doc : Document) (decl : TypeDecl) : TypeBody → Prop
  | .object fields interfaces =>
      List.Forall₂ (FieldDecl.Denotes doc) (decl.fields?.getD []) fields
      ∧ List.Forall₂ (RefDecl.DenotesMember doc) (decl.interfaces?.getD []) interfaces
  | .interface fields possibleTypes =>
      List.Forall₂ (FieldDecl.Denotes doc) (decl.fields?.getD []) fields
      ∧ List.Forall₂ (RefDecl.DenotesMember doc) (decl.possibleTypes?.getD []) possibleTypes
  | .union possibleTypes =>
      List.Forall₂ (RefDecl.DenotesMember doc) (decl.possibleTypes?.getD []) possibleTypes
  | .enum values => List.Forall₂ EnumValueDecl.Denotes (decl.enumValues?.getD []) values
  | .scalar source? => source? = none
  | .inputObject inputFields =>
      List.Forall₂ (InputDecl.Denotes doc) (decl.inputFields?.getD []) inputFields

/-- The type has the declared name, description and kind. -/
structure TypeDecl.Heads (decl : TypeDecl) (t : NamedType) : Prop where
  name : t.name = decl.name
  description : t.description? = decl.description?
  kind : decl.kind = t.kind.tag

/-- The type says what was declared. -/
structure TypeDecl.Denotes (doc : Document) (decl : TypeDecl) (t : NamedType) : Prop
    extends TypeDecl.Heads decl t where
  body : decl.DenotesBody doc t.body

theorem exists_denotesMembers {doc : Document} {decls : List RefDecl}
    (h : ∀ decl ∈ decls, decl.WellFormedMember doc) :
    ∃ ids, List.Forall₂ (RefDecl.DenotesMember doc) decls ids :=
  exists_forall₂ fun decl hmem ↦ (h decl hmem).exists_denotesMember

theorem TypeDecl.WellFormed.exists_denotesBody {doc : Document} {decl : TypeDecl}
    {kind : TypeKind} (h : decl.WellFormed doc kind) :
    ∃ body : TypeBody, body.kind = kind ∧ decl.DenotesBody doc body := by
  cases kind with
  | object =>
    obtain ⟨fields, hfields⟩ := h.1.exists_denotes
    obtain ⟨interfaces, hinterfaces⟩ := exists_denotesMembers h.2
    exact ⟨.object fields interfaces, rfl, hfields, hinterfaces⟩
  | interface =>
    obtain ⟨fields, hfields⟩ := h.1.exists_denotes
    obtain ⟨possibleTypes, hpossibleTypes⟩ := exists_denotesMembers h.2
    exact ⟨.interface fields possibleTypes, rfl, hfields, hpossibleTypes⟩
  | union =>
    obtain ⟨possibleTypes, hpossibleTypes⟩ := exists_denotesMembers h
    exact ⟨.union possibleTypes, rfl, hpossibleTypes⟩
  | enum =>
    obtain ⟨values, hvalues⟩ := EnumValueDecl.exists_denotes (decl.enumValues?.getD [])
    exact ⟨.enum values, rfl, hvalues⟩
  | scalar => exact ⟨.scalar none, rfl, rfl⟩
  | inputObject =>
    obtain ⟨inputFields, hinputFields⟩ := InputDecl.WellFormedAll.exists_denotes h
    exact ⟨.inputObject inputFields, rfl, hinputFields⟩

/-! ## Documents -/

/-- The document is well-formed. -/
structure Document.WellFormed (doc : Document) : Prop where
  /-- Every type has one of the six kinds that have names. -/
  kinds : ∀ decl ∈ doc.types, ∃ kind : TypeKind, decl.kind = kind.tag
  /-- No two types have the same name. -/
  names : (doc.types.map (·.name)).Nodup
  /-- The members of every type are sound. -/
  members : ∀ decl ∈ doc.types, ∀ kind : TypeKind, decl.kind = kind.tag →
    decl.WellFormed doc kind
  /-- The roots are declared objects. -/
  query : ∀ name ∈ doc.query?, doc.Declares name .object
  mutation : ∀ name ∈ doc.mutation?, doc.Declares name .object
  subscription : ∀ name ∈ doc.subscription?, doc.Declares name .object

/-- The root is the object of the declared name, and there is one exactly if one is declared. -/
def Document.DenotesRoot (doc : Document) : Option String → Option TypeId → Prop :=
  Option.Rel fun name id ↦ doc.DeclaresAt name .object id

/-- The graph mirrors the document: it has one type for each declared one, in the declared order,
and the declared roots. -/
structure TypeGraph.Mirrors (g : TypeGraph) (doc : Document) : Prop where
  types : List.Forall₂ (TypeDecl.Denotes doc) doc.types g.types
  query : doc.DenotesRoot doc.query? g.roots.query?
  mutation : doc.DenotesRoot doc.mutation? g.roots.mutation?
  subscription : doc.DenotesRoot doc.subscription? g.roots.subscription?

theorem Document.DenotesRoot.exists_of {doc : Document} {name? : Option String}
    (h : ∀ name ∈ name?, doc.Declares name .object) : ∃ id?, doc.DenotesRoot name? id? := by
  cases name? with
  | none => exact ⟨none, .none⟩
  | some name =>
    obtain ⟨id, hid⟩ := Document.declares_iff_exists_declaresAt.1 (h name rfl)
    exact ⟨some id, .some hid⟩

theorem Document.DenotesRoot.declares {doc : Document} {name? : Option String}
    {id? : Option TypeId} (h : doc.DenotesRoot name? id?) :
    ∀ name ∈ name?, doc.Declares name .object := by
  rintro name rfl
  cases h with
  | some hid => exact Document.declares_iff_exists_declaresAt.2 ⟨_, hid⟩

/-- **Every well-formed document has a mirror.** -/
theorem Document.WellFormed.exists_mirrors {doc : Document} (h : doc.WellFormed) :
    ∃ g : TypeGraph, g.Mirrors doc := by
  have htypes : ∀ decl ∈ doc.types, ∃ t, decl.Denotes doc t := by
    intro decl hmem
    obtain ⟨kind, hkind⟩ := h.kinds decl hmem
    obtain ⟨body, rfl, hbody⟩ := (h.members decl hmem kind hkind).exists_denotesBody
    exact ⟨⟨decl.name, decl.description?, body⟩, ⟨rfl, rfl, hkind⟩, hbody⟩
  obtain ⟨types, htypes⟩ := exists_forall₂ htypes
  obtain ⟨query?, hquery⟩ := DenotesRoot.exists_of h.query
  obtain ⟨mutation?, hmutation⟩ := DenotesRoot.exists_of h.mutation
  obtain ⟨subscription?, hsubscription⟩ := DenotesRoot.exists_of h.subscription
  exact ⟨⟨types, query?, mutation?, subscription?⟩, htypes, hquery, hmutation, hsubscription⟩

end Schema
end QueryBuilder
