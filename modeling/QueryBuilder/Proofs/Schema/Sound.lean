import QueryBuilder.Proofs.Schema.Mirror
import QueryBuilder.Schema.Override

/-!
# Sound graphs

A graph is sound if names are distinct, every address that occurs in it leads to a type of it, roots
are objects, and no non-null marker stands directly around another.

* `TypeBody.refs`, `TypeBody.members`, `RootTypes.ids` — where addresses occur.  Those of a body are
  the ones that `TypeBody.references` lists (`TypeBody.references_eq`).
* `TypeGraph.Sound` — the invariant.
* `Sound.add`, `Sound.merge` — a registration and any overrides keep it.  The first adds a type
  that refers to nothing.  The second only change the source of scalars, which no reference can see.
* `TypeGraph.Mirrors.sound` — the graph of a document has it, as what a document may refer to is
  declared there.
-/

set_option autoImplicit false

namespace QueryBuilder
namespace Schema

/-! ## References -/

/-- The references in a body: the types of its fields, of their arguments and of its input
fields. -/
def TypeBody.refs : TypeBody → List TypeRef
  | .object fields _ | .interface fields _ =>
    fields.flatMap fun f ↦ f.type :: f.arguments.map (·.type)
  | .inputObject inputFields => inputFields.map (·.type)
  | .union _ | .enum _ | .scalar _ => []

/-- The interfaces or possible types in a body. -/
def TypeBody.members : TypeBody → List TypeId
  | .object _ interfaces => interfaces
  | .interface _ possibleTypes | .union possibleTypes => possibleTypes
  | .enum _ | .scalar _ | .inputObject _ => []

/-- A body mentions what its references name, and its members. -/
theorem TypeBody.references_eq (body : TypeBody) :
    body.references = body.refs.map (·.namedType) ++ body.members := by
  cases body <;>
    simp [references, refs, members, fieldReferences, List.map_flatMap, Function.comp_def]

/-- The roots that there are. -/
def RootTypes.ids (roots : RootTypes) : List TypeId :=
  roots.query?.toList ++ roots.mutation?.toList ++ roots.subscription?.toList

/-- All addresses that occur in a graph. -/
def TypeGraph.addresses (g : TypeGraph) : List TypeId :=
  (g.types.flatMap fun t ↦ t.body.references) ++ g.roots.ids

/-- No non-null marker stands directly around another. -/
def TypeRef.IsProper : TypeRef → Prop
  | .named _ => True
  | .list inner => inner.IsProper
  | .nonNull inner => inner.isNonNull = false ∧ inner.IsProper

/-! ## The invariant -/

/-- Names are distinct, every address leads to a type, references are proper and roots objects. -/
structure TypeGraph.Sound (g : TypeGraph) : Prop where
  names : (g.types.map (·.name)).Nodup
  references : ∀ t ∈ g.types, ∀ id ∈ t.body.references, id.index < g.types.length
  proper : ∀ t ∈ g.types, ∀ ref ∈ t.body.refs, ref.IsProper
  roots : ∀ id ∈ g.roots.ids, g.kindOf? id = some .object

namespace TypeGraph

theorem Sound.empty : empty.Sound where
  names := List.nodup_nil
  references _ h := absurd h List.not_mem_nil
  proper _ h := absurd h List.not_mem_nil
  roots _ h := absurd h List.not_mem_nil

theorem kindOf?_lt {g : TypeGraph} {id : TypeId} {kind : TypeKind}
    (h : g.kindOf? id = some kind) : id.index < g.types.length := by
  obtain ⟨t, ht, -⟩ := kindOf?_eq_some_iff.1 h
  exact (List.getElem?_eq_some_iff.1 ht).1

/-! ### Registration -/

theorem refs_empty (kind : TypeKind) : (TypeBody.empty kind).refs = [] := by
  cases kind <;> rfl

theorem references_empty (kind : TypeKind) : (TypeBody.empty kind).references = [] := by
  cases kind <;> rfl

/-- A new type keeps the invariant: it refers to nothing. -/
theorem Sound.add {g : TypeGraph} (h : g.Sound) {name : String}
    (hnew : name ∉ g.types.map (·.name)) (description? : Option String) (kind : TypeKind) :
    Sound { g with types := g.types ++ [⟨name, description?, .empty kind⟩] } := by
  have hmem {t : NamedType} (ht : t ∈ g.types ++ [⟨name, description?, .empty kind⟩]) :
      t ∈ g.types ∨ t.body = .empty kind := by
    rcases List.mem_append.1 ht with ht | ht
    · exact .inl ht
    · exact .inr (by rw [List.mem_singleton.1 ht])
  refine ⟨?_, fun t ht id hid ↦ ?_, fun t ht ref href ↦ ?_, fun id hid ↦ ?_⟩
  · rw [List.map_append, List.map_singleton]
    refine List.nodup_append.2 ⟨h.names, List.nodup_singleton _, ?_⟩
    rintro n hn n' hn' rfl
    obtain rfl : n = name := List.mem_singleton.1 hn'
    exact hnew hn
  · rw [List.length_append]
    rcases hmem ht with ht | hbody
    · exact Nat.lt_add_right _ (h.references t ht id hid)
    · rw [hbody, references_empty] at hid
      exact absurd hid List.not_mem_nil
  · rcases hmem ht with ht | hbody
    · exact h.proper t ht ref href
    · rw [hbody, refs_empty] at href
      exact absurd href List.not_mem_nil
  · have hkind := h.roots id hid
    rw [kindOf?, get?, List.getElem?_append_left (kindOf?_lt hkind)]
    exact hkind

/-! ### Overrides -/

/-- What an override changes: the source of the scalar that it names, which is not a built-in
one. -/
theorem mergeOne_sets (g : TypeGraph) (report : MergeReport) (o : Override) :
    (Override.mergeOne (g, report) o).1 = g
      ∨ ∃ id t, g.get? id = some t ∧ t.name = o.scalar ∧ t.kind = .scalar
        ∧ o.scalar ∉ builtinScalars
        ∧ (Override.mergeOne (g, report) o).1 = g.setBody id (.scalar (some o.source)) := by
  rw [Override.mergeOne]
  cases hrefusal : o.refusal? g with
  | some reason => exact .inl rfl
  | none =>
    rw [Override.refusal?, byName?] at hrefusal
    cases hlookup : g.lookup o.scalar with
    | none =>
      rw [hlookup] at hrefusal
      cases hrefusal
    | some id =>
      obtain ⟨t, hget, hname⟩ := get?_of_lookup_eq_some hlookup
      simp only [hlookup, Option.bind_some, hget] at hrefusal
      split_ifs at hrefusal with hbuiltin hkind
      refine .inr ⟨id, t, hget, hname, hkind, fun h ↦ hbuiltin (List.contains_iff_mem.2 h), ?_⟩
      simp only [Override.apply, hlookup]
      rfl

theorem mergeOne_cases (g : TypeGraph) (report : MergeReport) (o : Override) :
    (Override.mergeOne (g, report) o).1 = g
      ∨ ∃ id, g.kindOf? id = some .scalar
        ∧ (Override.mergeOne (g, report) o).1 = g.setBody id (.scalar (some o.source)) := by
  rcases mergeOne_sets g report o with heq | ⟨id, t, hget, -, hkind, -, heq⟩
  · exact .inl heq
  · exact .inr ⟨id, kindOf?_eq_some_iff.2 ⟨t, hget, hkind⟩, heq⟩

theorem getElem?_setBody (g : TypeGraph) (id : TypeId) (body : TypeBody) (i : Nat) :
    (g.setBody id body).types[i]?
      = (g.types[i]?).map fun t ↦ if id.index = i then { t with body } else t := by
  rw [setBody, modify, List.getElem?_modify]
  split_ifs <;> simp

theorem names_setBody (g : TypeGraph) (id : TypeId) (body : TypeBody) :
    (g.setBody id body).types.map (·.name) = g.types.map (·.name) := by
  refine List.ext_getElem? fun i ↦ ?_
  rw [List.getElem?_map, List.getElem?_map, getElem?_setBody, Option.map_map]
  refine congrArg (Option.map · _) (funext fun t ↦ ?_)
  rw [Function.comp_apply]
  split_ifs <;> rfl

theorem Sound.setScalar {g : TypeGraph} (h : g.Sound) {id : TypeId}
    (hkind : g.kindOf? id = some .scalar) (source? : Option ScalarSource) :
    (g.setBody id (.scalar source?)).Sound := by
  have hlength : (g.setBody id (.scalar source?)).types.length = g.types.length := by
    rw [setBody, modify, List.length_modify]
  have hmem {t : NamedType} (ht : t ∈ (g.setBody id (.scalar source?)).types) :
      t ∈ g.types ∨ t.body = .scalar source? := by
    obtain ⟨i, hi⟩ := List.mem_iff_getElem?.1 ht
    rw [getElem?_setBody, Option.map_eq_some_iff] at hi
    obtain ⟨t', ht', rfl⟩ := hi
    split_ifs
    · exact .inr rfl
    · exact .inl (List.mem_of_getElem? ht')
  refine ⟨?_, fun t ht id' hid' ↦ ?_, fun t ht ref href ↦ ?_, fun id' hid' ↦ ?_⟩
  · rw [names_setBody]
    exact h.names
  · rw [hlength]
    rcases hmem ht with ht | hbody
    · exact h.references t ht id' hid'
    · rw [hbody] at hid'
      exact absurd hid' List.not_mem_nil
  · rcases hmem ht with ht | hbody
    · exact h.proper t ht ref href
    · rw [hbody] at href
      exact absurd href List.not_mem_nil
  · obtain ⟨t, ht, hobject⟩ := kindOf?_eq_some_iff.1 (h.roots id' hid')
    -- A root is an object, so it is not the scalar that changes.
    have hne : id.index ≠ id'.index := by
      intro heq
      obtain ⟨t', ht', hscalar⟩ := kindOf?_eq_some_iff.1 hkind
      rw [get?, heq] at ht'
      obtain rfl := Option.some.inj (ht.symm.trans ht')
      rw [hobject] at hscalar
      cases hscalar
    refine kindOf?_eq_some_iff.2 ⟨t, ?_, hobject⟩
    rw [get?, getElem?_setBody, ← get?, ht, Option.map_some, if_neg hne]

theorem Sound.mergeOne {g : TypeGraph} (h : g.Sound) (report : MergeReport) (o : Override) :
    (Override.mergeOne (g, report) o).1.Sound := by
  rcases mergeOne_cases g report o with heq | ⟨id, hkind, heq⟩
  · rw [heq]
    exact h
  · rw [heq]
    exact h.setScalar hkind _

theorem Sound.merge {g : TypeGraph} (h : g.Sound) (overrides : List Override) :
    (Override.merge overrides g).1.Sound :=
  List.foldlRecOn (motive := fun state : TypeGraph × MergeReport ↦ state.1.Sound) overrides
    Override.mergeOne h fun state hstate o _ ↦ hstate.mergeOne state.2 o

/-- Overrides keep all names. -/
theorem names_merge (overrides : List Override) (g : TypeGraph) :
    (Override.merge overrides g).1.types.map (·.name) = g.types.map (·.name) := by
  refine List.foldlRecOn
    (motive := fun state : TypeGraph × MergeReport ↦
      state.1.types.map (·.name) = g.types.map (·.name))
    overrides Override.mergeOne rfl fun state hstate o _ ↦ ?_
  rcases mergeOne_cases state.1 state.2 o with heq | ⟨id, -, heq⟩
  · rw [heq, hstate]
  · rw [heq, names_setBody, hstate]

end TypeGraph

/-! ### Ingestion -/

theorem RefDecl.Denotes.isProper {doc : Document} {decl : RefDecl} {ref : TypeRef}
    (h : decl.Denotes doc ref) : ref.IsProper := by
  induction h with
  | named => exact trivial
  | list _ ih => exact ih
  | nonNull hinner _ ih => exact ⟨hinner, ih⟩

theorem RefDecl.Denotes.lt {doc : Document} {decl : RefDecl} {ref : TypeRef}
    (h : decl.Denotes doc ref) : ref.namedType.index < doc.types.length := by
  induction h with
  | named _ _ hid =>
    obtain ⟨_, hget, -⟩ := hid
    exact (List.getElem?_eq_some_iff.1 hget).1
  | list _ ih => exact ih
  | nonNull _ _ ih => exact ih

/-- Every entry of the second list has a partner in the first. -/
theorem exists_left_of_forall₂ {α β : Type} {R : α → β → Prop} {l : List α} {m : List β}
    (h : List.Forall₂ R l m) {b : β} (hb : b ∈ m) : ∃ a, R a b :=
  exists_of_forall₂ h.flip hb

theorem exists_denotes_of_mem_inputs {doc : Document} {decls : List InputDecl}
    {values : List InputValue} (h : List.Forall₂ (InputDecl.Denotes doc) decls values)
    {ref : TypeRef} (href : ref ∈ values.map (·.type)) :
    ∃ decl : RefDecl, decl.Denotes doc ref := by
  obtain ⟨value, hvalue, rfl⟩ := List.mem_map.1 href
  obtain ⟨decl, hdecl⟩ := exists_left_of_forall₂ h hvalue
  exact ⟨_, hdecl.type⟩

theorem exists_denotes_of_mem_fields {doc : Document} {decls : List FieldDecl}
    {fields : List Field} (h : List.Forall₂ (FieldDecl.Denotes doc) decls fields) {ref : TypeRef}
    (href : ref ∈ fields.flatMap fun f ↦ f.type :: f.arguments.map (·.type)) :
    ∃ decl : RefDecl, decl.Denotes doc ref := by
  obtain ⟨field, hfield, href⟩ := List.mem_flatMap.1 href
  obtain ⟨decl, hdecl⟩ := exists_left_of_forall₂ h hfield
  rcases List.mem_cons.1 href with rfl | href
  · exact ⟨_, hdecl.type⟩
  · exact exists_denotes_of_mem_inputs hdecl.arguments href

/-- Every reference in a body was declared, and so was every member. -/
theorem TypeDecl.DenotesBody.exists_denotes {doc : Document} {decl : TypeDecl} {body : TypeBody}
    (h : decl.DenotesBody doc body) :
    (∀ ref ∈ body.refs, ∃ d : RefDecl, d.Denotes doc ref)
      ∧ ∀ id ∈ body.members, ∃ d : RefDecl, d.DenotesMember doc id := by
  cases body with
  | object fields interfaces =>
    exact ⟨fun ref ↦ exists_denotes_of_mem_fields h.1, fun id ↦ exists_left_of_forall₂ h.2⟩
  | interface fields possibleTypes =>
    exact ⟨fun ref ↦ exists_denotes_of_mem_fields h.1, fun id ↦ exists_left_of_forall₂ h.2⟩
  | union possibleTypes =>
    exact ⟨fun _ href ↦ absurd href List.not_mem_nil, fun id ↦ exists_left_of_forall₂ h⟩
  | inputObject inputFields =>
    exact ⟨fun ref ↦ exists_denotes_of_mem_inputs h, fun _ hid ↦ absurd hid List.not_mem_nil⟩
  | enum | scalar =>
    exact ⟨fun _ href ↦ absurd href List.not_mem_nil, fun _ hid ↦ absurd hid List.not_mem_nil⟩

theorem Document.DenotesRoot.kindOf?_eq {doc : Document} {g : TypeGraph} (hg : g.Outlines doc)
    {name? : Option String} {id? : Option TypeId} (h : doc.DenotesRoot name? id?) {id : TypeId}
    (hid : id ∈ id?.toList) : g.kindOf? id = some .object := by
  cases h with
  | none => exact absurd hid List.not_mem_nil
  | some hdeclares =>
    obtain rfl := List.mem_singleton.1 hid
    obtain ⟨t, hget, -, hkind⟩ := hg.declaresAt_iff.1 hdeclares
    exact TypeGraph.kindOf?_eq_some_iff.2 ⟨t, hget, hkind⟩

theorem TypeGraph.Mirrors.outlines {doc : Document} {g : TypeGraph} (hdoc : doc.WellFormed)
    (h : g.Mirrors doc) : g.Outlines doc :=
  ⟨h.types.imp fun _ _ ↦ TypeDecl.Denotes.toHeads, hdoc.names⟩

/-- **The graph of a document is sound**: its references and roots are those that were declared. -/
theorem TypeGraph.Mirrors.sound {doc : Document} {g : TypeGraph} (hdoc : doc.WellFormed)
    (h : g.Mirrors doc) : g.Sound := by
  have houtlines := h.outlines hdoc
  have hlength : doc.types.length = g.types.length := h.types.length_eq
  have hbody {t : NamedType} (ht : t ∈ g.types) :=
    let ⟨_, hdecl⟩ := exists_left_of_forall₂ h.types ht
    hdecl.body.exists_denotes
  refine ⟨houtlines.names_eq ▸ hdoc.names, fun t ht id hid ↦ ?_, fun t ht ref href ↦ ?_,
    fun id hid ↦ ?_⟩
  · rw [TypeBody.references_eq, List.mem_append] at hid
    rw [← hlength]
    rcases hid with hid | hid
    · obtain ⟨ref, href, rfl⟩ := List.mem_map.1 hid
      obtain ⟨d, hd⟩ := (hbody ht).1 ref href
      exact hd.lt
    · obtain ⟨d, hd⟩ := (hbody ht).2 id hid
      exact RefDecl.Denotes.lt hd
  · obtain ⟨d, hd⟩ := (hbody ht).1 ref href
    exact hd.isProper
  · rw [RootTypes.ids, List.mem_append, List.mem_append] at hid
    rcases hid with (hid | hid) | hid
    · exact h.query.kindOf?_eq houtlines hid
    · exact h.mutation.kindOf?_eq houtlines hid
    · exact h.subscription.kindOf?_eq houtlines hid

end Schema
end QueryBuilder
