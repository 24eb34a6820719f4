import QueryBuilder.Proofs.Schema.Reachable

/-!
# The order of declared types

Types get their addresses in the order in which they are declared, and the second pass fills their
bodies in that order.  Neither is seen in what a graph says: a document with its types in another
order has a graph exactly if the document has one, and the two graphs are the same but for
addresses.

## What is here

* `NamedType.rename`, `TypeGraph.RenamedBy` — types and graphs with other addresses.
* `Document.WellFormed.of_declares` — which documents are well-formed depends on what is declared,
  and not on where.
* `TypeDecl.Denotes.rename` — a type that a declaration denotes is denoted by it elsewhere as well,
  with the addresses that names have there.
* `Document.resolve_perm` — the result: both graphs mirror their documents, and the one is the other
  with new addresses.

A reference is resolved by its name.  So the renaming is found by name, too (`TypeGraph.addressIn`):
it takes an address of the one graph to the address in the other at which the same name stands.
-/

set_option autoImplicit false

namespace QueryBuilder
namespace Schema

/-! ## Renaming -/

section

variable (ρ : TypeId → TypeId)

/-- The reference with another address at its end. -/
def TypeRef.rename : TypeRef → TypeRef
  | .named id => .named (ρ id)
  | .list inner => .list inner.rename
  | .nonNull inner => .nonNull inner.rename

/-- The argument or input field with other addresses. -/
def InputValue.rename (v : InputValue) : InputValue :=
  { v with type := v.type.rename ρ }

/-- The field with other addresses. -/
def Field.rename (f : Field) : Field :=
  { f with type := f.type.rename ρ, arguments := f.arguments.map (InputValue.rename ρ) }

/-- The body with other addresses. -/
def TypeBody.rename : TypeBody → TypeBody
  | .object fields interfaces => .object (fields.map (Field.rename ρ)) (interfaces.map ρ)
  | .interface fields possibleTypes =>
    .interface (fields.map (Field.rename ρ)) (possibleTypes.map ρ)
  | .union possibleTypes => .union (possibleTypes.map ρ)
  | .enum values => .enum values
  | .scalar source? => .scalar source?
  | .inputObject inputFields => .inputObject (inputFields.map (InputValue.rename ρ))

/-- The type with other addresses. -/
def NamedType.rename (t : NamedType) : NamedType :=
  { t with body := t.body.rename ρ }

/-- The roots with other addresses. -/
def RootTypes.rename (roots : RootTypes) : RootTypes :=
  ⟨roots.query?.map ρ, roots.mutation?.map ρ, roots.subscription?.map ρ⟩

theorem TypeRef.isNonNull_rename (ref : TypeRef) : (ref.rename ρ).isNonNull = ref.isNonNull := by
  cases ref <;> rfl

theorem TypeBody.kind_rename (body : TypeBody) : (body.rename ρ).kind = body.kind := by
  cases body <;> rfl

end

/-- The second graph is the first with other addresses: each type of the one stands in the other, at
its new address and with new addresses in it, and there are no other types.  A new address has the
name of the old one, so every reference leads to the same name, and what is found by a name is the
same type. -/
structure TypeGraph.RenamedBy (g g' : TypeGraph) (ρ : TypeId → TypeId) : Prop where
  length : g'.types.length = g.types.length
  injective : ∀ id id', id.index < g.types.length → id'.index < g.types.length → ρ id = ρ id' →
    id = id'
  type : ∀ id t, g.get? id = some t → g'.get? (ρ id) = some (t.rename ρ)
  name : ∀ id, g'.nameOf (ρ id) = g.nameOf id
  refText : ∀ ref, g'.refText (ref.rename ρ) = g.refText ref
  byName : ∀ name, g'.byName? name = (g.byName? name).map (NamedType.rename ρ)
  roots : g'.roots = g.roots.rename ρ

/-! ## Well-formedness -/

section

variable {doc doc' : Document} (h : ∀ name kind, doc.Declares name kind → doc'.Declares name kind)
include h

theorem RefDecl.WellFormed.of_declares {decl : RefDecl} (hdecl : decl.WellFormed doc) :
    decl.WellFormed doc' := by
  induction hdecl with
  | named hkind hname hdeclares => exact .named hkind hname (h _ _ hdeclares)
  | list _ ih => exact .list ih
  | nonNull hinner _ ih => exact .nonNull hinner ih

theorem RefDecl.WellFormedMember.of_declares {decl : RefDecl} (hdecl : decl.WellFormedMember doc) :
    decl.WellFormedMember doc' :=
  ⟨hdecl.1.of_declares h, hdecl.2⟩

theorem InputDecl.WellFormedAll.of_declares {decls : List InputDecl}
    (hdecls : InputDecl.WellFormedAll doc decls) : InputDecl.WellFormedAll doc' decls :=
  ⟨hdecls.names, fun decl hmem ↦ (hdecls.types decl hmem).of_declares h⟩

theorem FieldDecl.WellFormedAll.of_declares {decls : List FieldDecl}
    (hdecls : FieldDecl.WellFormedAll doc decls) : FieldDecl.WellFormedAll doc' decls :=
  ⟨hdecls.names, fun decl hmem ↦ ⟨(hdecls.fields decl hmem).type.of_declares h,
    (hdecls.fields decl hmem).arguments.of_declares h⟩⟩

theorem TypeDecl.WellFormed.of_declares {decl : TypeDecl} {kind : TypeKind}
    (hdecl : decl.WellFormed doc kind) : decl.WellFormed doc' kind := by
  cases kind with
  | object => exact ⟨hdecl.1.of_declares h, fun member hmem ↦ (hdecl.2 member hmem).of_declares h⟩
  | interface =>
    exact ⟨hdecl.1.of_declares h, fun member hmem ↦ (hdecl.2 member hmem).of_declares h⟩
  | union => exact fun member hmem ↦ (hdecl member hmem).of_declares h
  | enum => exact hdecl
  | scalar => exact hdecl
  | inputObject => exact InputDecl.WellFormedAll.of_declares h hdecl

end

/-- **Where types are declared does not decide whether a document is well-formed.** -/
theorem Document.WellFormed.perm {doc : Document} {types : List TypeDecl}
    (hperm : types.Perm doc.types) (hdoc : doc.WellFormed) :
    ({ doc with types } : Document).WellFormed := by
  have hdeclares (name : String) (kind : TypeKind) (h : doc.Declares name kind) :
      ({ doc with types } : Document).Declares name kind := by
    obtain ⟨decl, hmem, hdecl⟩ := h
    exact ⟨decl, hperm.mem_iff.2 hmem, hdecl⟩
  exact {
    kinds := fun decl hmem ↦ hdoc.kinds decl (hperm.mem_iff.1 hmem)
    names := (hperm.map _).nodup_iff.2 hdoc.names
    members := fun decl hmem kind hkind ↦
      (hdoc.members decl (hperm.mem_iff.1 hmem) kind hkind).of_declares hdeclares
    query := fun name hname ↦ hdeclares _ _ (hdoc.query name hname)
    mutation := fun name hname ↦ hdeclares _ _ (hdoc.mutation name hname)
    subscription := fun name hname ↦ hdeclares _ _ (hdoc.subscription name hname) }

/-! ## What declarations denote -/

section

variable {doc doc' : Document} {ρ : TypeId → TypeId}
  (h : ∀ name kind id, doc.DeclaresAt name kind id → doc'.DeclaresAt name kind (ρ id))
include h

theorem RefDecl.Denotes.rename {decl : RefDecl} {ref : TypeRef} (hdecl : decl.Denotes doc ref) :
    decl.Denotes doc' (ref.rename ρ) := by
  induction hdecl with
  | named hkind hname hdeclares => exact .named hkind hname (h _ _ _ hdeclares)
  | list _ ih => exact .list ih
  | nonNull hinner _ ih => exact .nonNull ((TypeRef.isNonNull_rename ρ _).trans hinner) ih

theorem RefDecl.DenotesMember.rename {decl : RefDecl} {id : TypeId}
    (hdecl : decl.DenotesMember doc id) : decl.DenotesMember doc' (ρ id) :=
  RefDecl.Denotes.rename h hdecl

theorem InputDecl.Denotes.rename {decl : InputDecl} {value : InputValue}
    (hdecl : decl.Denotes doc value) : decl.Denotes doc' (value.rename ρ) :=
  ⟨hdecl.name, hdecl.description, hdecl.type.rename h, hdecl.default⟩

theorem FieldDecl.Denotes.rename {decl : FieldDecl} {field : Field}
    (hdecl : decl.Denotes doc field) : decl.Denotes doc' (field.rename ρ) where
  name := hdecl.name
  description := hdecl.description
  type := hdecl.type.rename h
  arguments := List.forall₂_map_right_iff.2 (hdecl.arguments.imp fun _ _ ↦ .rename h)
  deprecation := hdecl.deprecation

theorem TypeDecl.DenotesBody.rename {decl : TypeDecl} {body : TypeBody}
    (hdecl : decl.DenotesBody doc body) : decl.DenotesBody doc' (body.rename ρ) := by
  have hfields {decls : List FieldDecl} {fields : List Field}
      (hdecls : List.Forall₂ (FieldDecl.Denotes doc) decls fields) :
      List.Forall₂ (FieldDecl.Denotes doc') decls (fields.map (Field.rename ρ)) :=
    List.forall₂_map_right_iff.2 (hdecls.imp fun _ _ ↦ .rename h)
  have hmembers {decls : List RefDecl} {ids : List TypeId}
      (hdecls : List.Forall₂ (RefDecl.DenotesMember doc) decls ids) :
      List.Forall₂ (RefDecl.DenotesMember doc') decls (ids.map ρ) :=
    List.forall₂_map_right_iff.2 (hdecls.imp fun _ _ ↦ .rename h)
  cases body with
  | object => exact ⟨hfields hdecl.1, hmembers hdecl.2⟩
  | interface => exact ⟨hfields hdecl.1, hmembers hdecl.2⟩
  | union => exact hmembers hdecl
  | enum => exact hdecl
  | scalar => exact hdecl
  | inputObject =>
    exact List.forall₂_map_right_iff.2
      (List.Forall₂.imp (fun _ _ ↦ InputDecl.Denotes.rename h) hdecl)

/-- **A declaration denotes the same type elsewhere**, with the addresses that names have there. -/
theorem TypeDecl.Denotes.rename {decl : TypeDecl} {t : NamedType} (hdecl : decl.Denotes doc t) :
    decl.Denotes doc' (t.rename ρ) where
  name := hdecl.name
  description := hdecl.description
  kind := hdecl.kind.trans (congrArg TypeKind.tag (TypeBody.kind_rename ρ t.body).symm)
  body := hdecl.body.rename h

theorem Document.DenotesRoot.rename {name? : Option String} {id? : Option TypeId}
    (hroot : doc.DenotesRoot name? id?) : doc'.DenotesRoot name? (id?.map ρ) := by
  cases hroot with
  | none => exact .none
  | some hdeclares => exact .some (h _ _ _ hdeclares)

end

/-! ## Only one graph -/

section

variable {doc : Document} {g : TypeGraph} (hg : g.Outlines doc)
include hg

theorem Document.DeclaresAt.unique {name : String} {kind kind' : TypeKind} {id id' : TypeId}
    (h : doc.DeclaresAt name kind id) (h' : doc.DeclaresAt name kind' id') : id = id' := by
  obtain ⟨t, hget, hname, -⟩ := hg.declaresAt_iff.1 h
  obtain ⟨t', hget', hname', -⟩ := hg.declaresAt_iff.1 h'
  have hnodup := hg.names_eq ▸ hg.names
  exact Option.some.inj (((TypeGraph.lookup_eq_some_iff hnodup).2 ⟨t, hget, hname⟩).symm.trans
    ((TypeGraph.lookup_eq_some_iff hnodup).2 ⟨t', hget', hname'⟩))

theorem Document.DenotesRoot.unique {name? : Option String} {id? id'? : Option TypeId}
    (h : doc.DenotesRoot name? id?) (h' : doc.DenotesRoot name? id'?) : id? = id'? := by
  cases h with
  | none =>
    cases h'
    rfl
  | some hdeclares =>
    cases h' with
    | some hdeclares' => exact congrArg some (hdeclares.unique hg hdeclares')

/-- A well-formed declaration denotes one type. -/
theorem TypeDecl.Denotes.unique {decl : TypeDecl} {t t' : NamedType}
    (hdecl : decl.WellFormed doc t.kind) (h : decl.Denotes doc t) (h' : decl.Denotes doc t') :
    t = t' := by
  have hkind : t'.kind = t.kind := TypeKind.tag_injective (h'.kind.symm.trans h.kind)
  have hbody := (resolveBody_eq_ok_iff hg).2 ⟨hdecl, rfl, h.body⟩
  have hbody' := (resolveBody_eq_ok_iff hg).2 ⟨hdecl, hkind, h'.body⟩
  obtain ⟨name, description?, body⟩ := t
  obtain ⟨name', description'?, body'⟩ := t'
  obtain rfl : name = name' := h.name.trans h'.name.symm
  obtain rfl : description? = description'? := h.description.trans h'.description.symm
  obtain rfl : body = body' := Except.ok.inj (hbody.symm.trans hbody')
  rfl

end

/-! ## Two graphs -/

/-- The address in another graph at which the same name stands. -/
def TypeGraph.addressIn (g g' : TypeGraph) (id : TypeId) : TypeId :=
  (g'.lookup (g.nameOf id)).getD id

section

variable {doc : Document} {types : List TypeDecl} {g g' : TypeGraph}

theorem TypeGraph.nameOf_eq {id : TypeId} {t : NamedType} (h : g.get? id = some t) :
    g.nameOf id = t.name := by
  rw [nameOf, h]

/-- A name is declared at its address in the other graph. -/
theorem Document.DeclaresAt.addressIn (hperm : types.Perm doc.types) (hg : g.Outlines doc)
    (hg' : g'.Outlines { doc with types }) {name : String} {kind : TypeKind} {id : TypeId}
    (h : doc.DeclaresAt name kind id) :
    ({ doc with types } : Document).DeclaresAt name kind (g.addressIn g' id) := by
  obtain ⟨t, hget, hname, -⟩ := hg.declaresAt_iff.1 h
  obtain ⟨decl, hmem, hdecl⟩ := Document.declares_iff_exists_declaresAt.2 ⟨id, h⟩
  obtain ⟨id', hid'⟩ := Document.declares_iff_exists_declaresAt.1
    (⟨decl, hperm.mem_iff.2 hmem, hdecl⟩ : ({ doc with types } : Document).Declares name kind)
  obtain ⟨t', hget', hname', -⟩ := hg'.declaresAt_iff.1 hid'
  have hlookup := (TypeGraph.lookup_eq_some_iff (hg'.names_eq ▸ hg'.names)).2 ⟨t', hget', hname'⟩
  rwa [TypeGraph.addressIn, TypeGraph.nameOf_eq hget, hname, hlookup, Option.getD_some]

/-- **The type of a declaration stands at the address of its name.** -/
theorem TypeGraph.Mirrors.get?_addressIn (hperm : types.Perm doc.types) (hdoc : doc.WellFormed)
    (h : g.Mirrors doc) (h' : g'.Mirrors { doc with types }) {id : TypeId} {t : NamedType}
    (hget : g.get? id = some t) :
    g'.get? (g.addressIn g' id) = some (t.rename (g.addressIn g')) := by
  have hg := h.outlines hdoc
  have hg' := h'.outlines (hdoc.perm hperm)
  obtain ⟨decl, hmem, hdenotes⟩ : ∃ decl ∈ doc.types, decl.Denotes doc t := by
    obtain ⟨hlt, rfl⟩ := List.getElem?_eq_some_iff.1 hget
    have hlt' : id.index < doc.types.length := h.types.length_eq ▸ hlt
    exact ⟨doc.types[id.index], List.getElem_mem hlt', h.types.get hlt' hlt⟩
  obtain ⟨j, hj, rfl⟩ := List.mem_iff_getElem.1 (hperm.mem_iff.2 hmem)
  have hj' : j < g'.types.length := h'.types.length_eq ▸ hj
  have hdenotes' : TypeDecl.Denotes { doc with types } types[j] g'.types[j] := h'.types.get hj hj'
  have hrenamed := hdenotes.rename fun _ _ _ ↦ Document.DeclaresAt.addressIn hperm hg hg'
  have hmembers := (hdoc.perm hperm).members _ (List.getElem_mem hj) _ hdenotes'.kind
  have heq := TypeDecl.Denotes.unique hg' hmembers hdenotes' hrenamed
  have hget' : g'.get? ⟨j⟩ = some g'.types[j] := List.getElem?_eq_getElem hj'
  have hlookup : g'.lookup (g.nameOf id) = some ⟨j⟩ :=
    (TypeGraph.lookup_eq_some_iff (hg'.names_eq ▸ hg'.names)).2 ⟨_, hget',
      (hdenotes'.name.trans hdenotes.name.symm).trans (nameOf_eq hget).symm⟩
  rw [← heq, ← hget', addressIn, hlookup, Option.getD_some]

/-- **An address has the name that its new address has.** -/
theorem TypeGraph.nameOf_addressIn (hlength : g'.types.length = g.types.length)
    (htype : ∀ id t, g.get? id = some t →
      g'.get? (g.addressIn g' id) = some (t.rename (g.addressIn g'))) (id : TypeId) :
    g'.nameOf (g.addressIn g' id) = g.nameOf id := by
  cases hget : g.get? id with
  | some t => rw [nameOf_eq (htype id t hget), nameOf_eq hget, NamedType.rename]
  | none =>
    -- Both graphs say the empty name where there is no type.
    have hempty : g.nameOf id = "" := by rw [nameOf, hget]
    have hget' : g'.get? id = none := by
      rw [get?, List.getElem?_eq_none_iff, hlength]
      exact List.getElem?_eq_none_iff.1 hget
    rw [addressIn, hempty]
    cases hlookup : g'.lookup "" with
    | none => rw [Option.getD_none, nameOf, hget']
    | some id' =>
      obtain ⟨t', ht', hname⟩ := get?_of_lookup_eq_some hlookup
      rw [Option.getD_some, nameOf_eq ht', hname]

theorem TypeGraph.refText_rename {ρ : TypeId → TypeId}
    (hname : ∀ id, g'.nameOf (ρ id) = g.nameOf id) (ref : TypeRef) :
    g'.refText (ref.rename ρ) = g.refText ref := by
  induction ref with
  | named id => exact hname id
  | list inner ih => rw [TypeRef.rename, refText, ih, refText]
  | nonNull inner ih => rw [TypeRef.rename, refText, ih, refText]

/-- **The graphs of a document and of the document in another order** are the same but for
addresses. -/
theorem TypeGraph.Mirrors.renamedBy (hperm : types.Perm doc.types) (hdoc : doc.WellFormed)
    (h : g.Mirrors doc) (h' : g'.Mirrors { doc with types }) :
    g.RenamedBy g' (g.addressIn g') := by
  have hg := h.outlines hdoc
  have hg' := h'.outlines (hdoc.perm hperm)
  have hnodup : (g.types.map (·.name)).Nodup := hg.names_eq ▸ hg.names
  have hnodup' : (g'.types.map (·.name)).Nodup := hg'.names_eq ▸ hg'.names
  have hnames : (g'.types.map (·.name)).Perm (g.types.map (·.name)) := by
    rw [hg.names_eq, hg'.names_eq]
    exact hperm.map _
  have hlength : g'.types.length = g.types.length := by
    simpa using hnames.length_eq
  have hdeclares (name : String) (kind : TypeKind) (id : TypeId)
      (hid : doc.DeclaresAt name kind id) :
      ({ doc with types } : Document).DeclaresAt name kind (g.addressIn g' id) :=
    hid.addressIn hperm hg hg'
  have htype {id : TypeId} {t : NamedType} (hget : g.get? id = some t) :=
    TypeGraph.Mirrors.get?_addressIn hperm hdoc h h' hget
  have hname := nameOf_addressIn hlength fun _ _ ↦ htype
  refine {
    length := hlength
    injective := fun id id' hlt hlt' heq ↦ ?_
    type := fun id t hget ↦ htype hget
    name := hname
    refText := refText_rename hname
    byName := fun name ↦ ?_
    roots := ?_ }
  · have hget : g.get? id = some g.types[id.index] := List.getElem?_eq_getElem hlt
    have hget' : g.get? id' = some g.types[id'.index] := List.getElem?_eq_getElem hlt'
    have hnameOf : g.nameOf id = g.nameOf id' := by rw [← hname, heq, hname]
    rw [nameOf_eq hget, nameOf_eq hget'] at hnameOf
    exact Option.some.inj (((lookup_eq_some_iff hnodup).2 ⟨_, hget, hnameOf⟩).symm.trans
      ((lookup_eq_some_iff hnodup).2 ⟨_, hget', rfl⟩))
  · rw [byName?, byName?]
    cases hlookup : g.lookup name with
    | none =>
      rw [lookup_eq_none_iff, ← hnames.mem_iff, ← lookup_eq_none_iff] at hlookup
      rw [hlookup, Option.bind_none, Option.bind_none, Option.map_none]
    | some id =>
      obtain ⟨t, hget, rfl⟩ := get?_of_lookup_eq_some hlookup
      have hlookup' : g'.lookup t.name = some (g.addressIn g' id) :=
        (lookup_eq_some_iff hnodup').2 ⟨_, htype hget, rfl⟩
      rw [hlookup', Option.bind_some, Option.bind_some, htype hget, hget, Option.map_some]
  · have hquery := Document.DenotesRoot.unique hg' h'.query (h.query.rename hdeclares)
    have hmutation := Document.DenotesRoot.unique hg' h'.mutation (h.mutation.rename hdeclares)
    have hsubscription := Document.DenotesRoot.unique hg' h'.subscription
      (h.subscription.rename hdeclares)
    rw [RootTypes.rename, ← hquery, ← hmutation, ← hsubscription]

end

/-! ## Ingestion -/

theorem Document.length_le_of_resolve {doc : Document} {g : TypeGraph} (h : doc.resolve = .ok g) :
    doc.types.length ≤ TypeGraph.capacity := by
  obtain ⟨⟨ids, declared⟩, hdeclare, -⟩ := bind_eq_ok_iff.1 h
  exact declare_length_le hdeclare

theorem Document.exists_resolve_perm {doc : Document} {types : List TypeDecl}
    (hperm : types.Perm doc.types) (h : ∃ g, doc.resolve = .ok g) :
    ∃ g, ({ doc with types } : Document).resolve = .ok g := by
  obtain ⟨g, hg⟩ := h
  have hlength := Document.length_le_of_resolve hg
  have hdoc := ((Document.resolve_eq_ok_iff hlength).1 hg).1.perm hperm
  obtain ⟨g', hg'⟩ := hdoc.exists_mirrors
  exact ⟨g', (Document.resolve_eq_ok_iff (hperm.length_eq ▸ hlength)).2 ⟨hdoc, hg'⟩⟩

/-- **The order of types does not matter.**  A document with its types in another order is accepted
exactly if the document is.  Then both graphs have the declared types, with what is declared of
them, and they are the same but for addresses. -/
theorem Document.resolve_perm (doc : Document) (types : List TypeDecl)
    (hperm : types.Perm doc.types) :
    ((∃ g, doc.resolve = .ok g) ↔ ∃ g, ({ doc with types } : Document).resolve = .ok g)
      ∧ ∀ g g', doc.resolve = .ok g → ({ doc with types } : Document).resolve = .ok g' →
        g.Mirrors doc ∧ g'.Mirrors { doc with types } ∧ ∃ ρ, g.RenamedBy g' ρ := by
  refine ⟨⟨Document.exists_resolve_perm hperm, Document.exists_resolve_perm hperm.symm⟩,
    fun g g' hg hg' ↦ ?_⟩
  obtain ⟨hdoc, hmirrors⟩ := (Document.resolve_eq_ok_iff (Document.length_le_of_resolve hg)).1 hg
  obtain ⟨-, hmirrors'⟩ := (Document.resolve_eq_ok_iff (Document.length_le_of_resolve hg')).1 hg'
  exact ⟨hmirrors, hmirrors', _, hmirrors.renamedBy hperm hdoc hmirrors'⟩

/-- The types of the document stand at other addresses, and are found by their names. -/
theorem Document.resolve_perm_cyclic :
    cyclicDocument.types.reverse.Perm cyclicDocument.types
      ∧ ∃ g g', cyclicDocument.resolve = .ok g
        ∧ ({ cyclicDocument with types := cyclicDocument.types.reverse } : Document).resolve
          = .ok g'
        ∧ (∃ node filter, g.get? ⟨0⟩ = some node ∧ g.get? ⟨1⟩ = some filter
          ∧ g.byName? "Node" = some node ∧ g.byName? "Filter" = some filter
          ∧ node.kind = .object ∧ filter.kind = .inputObject)
        ∧ (∃ node filter, g'.get? ⟨1⟩ = some node ∧ g'.get? ⟨0⟩ = some filter
          ∧ g'.byName? "Node" = some node ∧ g'.byName? "Filter" = some filter
          ∧ node.kind = .object ∧ filter.kind = .inputObject)
        ∧ g.Mirrors cyclicDocument
        ∧ g'.Mirrors { cyclicDocument with types := cyclicDocument.types.reverse }
        ∧ ∃ ρ, g.RenamedBy g' ρ :=
  ⟨List.reverse_perm _, _, _, rfl, rfl,
    ⟨_, _, rfl, rfl, rfl, rfl, rfl, rfl⟩, ⟨_, _, rfl, rfl, rfl, rfl, rfl, rfl⟩,
    (Document.resolve_perm cyclicDocument cyclicDocument.types.reverse (List.reverse_perm _)).2 _ _
      rfl rfl⟩

end Schema
end QueryBuilder
