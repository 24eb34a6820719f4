import Mathlib.Data.List.Nodup
import QueryBuilder.Proofs.Schema.Bodies

/-!
# Which documents have a type graph

The two passes over a document succeed exactly if the document is well-formed, and the graph they
build is the mirror of the document (`Document.resolve_eq_ok_iff`).

The first pass leaves a graph that outlines the document, with empty bodies.  The second replaces
the bodies one after the other.  A step keeps the outline (`TypeDecl.Heads.setBody`), so what a
reference resolves to does not depend on how many bodies are filled by then: the run
(`fillBodies_eq_ok_iff`) accepts the types that are left exactly if each of them is well-formed.
-/

set_option autoImplicit false

namespace QueryBuilder
namespace Schema

/-! ## The first pass -/

theorem declaredKind_eq_ok_iff {index : Nat} {decl : TypeDecl} {kind : TypeKind} :
    declaredKind index decl = .ok kind ↔ decl.kind = kind.tag := by
  simp only [declaredKind, bind_eq_ok_iff, KindTag.parse_eq_ok_iff]
  constructor
  · rintro ⟨tag, htag, h⟩
    cases tag with
    | named kind' =>
      obtain rfl := Except.ok.inj h
      exact htag
    | list => cases h
    | nonNull => cases h
  · intro h
    exact ⟨.named kind, h, rfl⟩

theorem TypeGraph.register_eq_ok_iff {g : TypeGraph} {name : String}
    {description? : Option String} {kind : TypeKind} {r : TypeId × TypeGraph} :
    g.register name description? kind = .ok r ↔
      name ∉ g.types.map (·.name) ∧ g.types.length < capacity
        ∧ (⟨g.types.length⟩, { g with types := g.types ++ [⟨name, description?, .empty kind⟩] })
          = r := by
  rw [register, ← lookup_eq_none_iff]
  cases g.lookup name with
  | some id => simp
  | none =>
    by_cases h : g.types.length < capacity
    · simp [h]
    · simp [h]

/-- The type that the first pass registers for a declaration. -/
structure TypeDecl.Registers (decl : TypeDecl) (t : NamedType) : Prop
    extends TypeDecl.Heads decl t where
  body : t.body = .empty t.kind

theorem TypeBody.kind_empty (kind : TypeKind) : (TypeBody.empty kind).kind = kind := by
  cases kind <;> rfl

theorem TypeDecl.registers_iff {decl : TypeDecl} {t : NamedType} :
    decl.Registers t ↔ ∃ kind : TypeKind,
      decl.kind = kind.tag ∧ t = ⟨decl.name, decl.description?, .empty kind⟩ := by
  constructor
  · rintro ⟨⟨hname, hdescription, hkind⟩, hbody⟩
    refine ⟨t.kind, hkind, ?_⟩
    rw [← hname, ← hdescription, ← hbody]
  · rintro ⟨kind, hkind, rfl⟩
    have h : (⟨decl.name, decl.description?, .empty kind⟩ : NamedType).kind = kind :=
      TypeBody.kind_empty kind
    exact ⟨⟨rfl, rfl, by rw [h]; exact hkind⟩, by rw [h]⟩

/-- The addresses from a number on. -/
def addressesFrom (start count : Nat) : List TypeId :=
  (List.range' start count).map TypeId.mk

theorem addressesFrom_succ (start count : Nat) :
    addressesFrom start (count + 1) = ⟨start⟩ :: addressesFrom (start + 1) count := by
  rw [addressesFrom, List.range'_succ, List.map_cons, addressesFrom]

/-- A step of the first pass. -/
theorem declareFrom_cons_eq_ok_iff {index : Nat} {g g' : TypeGraph} {decl : TypeDecl}
    {decls : List TypeDecl} {ids : List TypeId} (hlength : g.types.length < TypeGraph.capacity) :
    declareFrom index g (decl :: decls) = .ok (ids, g') ↔
      decl.name ∉ g.types.map (·.name) ∧ ∃ t, decl.Registers t ∧ ∃ ids',
        declareFrom (index + 1) { g with types := g.types ++ [t] } decls = .ok (ids', g')
          ∧ ids = ⟨g.types.length⟩ :: ids' := by
  simp only [declareFrom, bind_eq_ok_iff, declaredKind_eq_ok_iff, TypeDecl.registers_iff]
  constructor
  · rintro ⟨kind, hkind, h⟩
    split at h
    · cases h
    · rename_i r id g₁ hr
      obtain ⟨hnew, -, hr⟩ := TypeGraph.register_eq_ok_iff.1 hr
      obtain ⟨rfl, rfl⟩ := Prod.mk.inj hr
      obtain ⟨⟨ids', g₂⟩, hrest, h⟩ := bind_eq_ok_iff.1 h
      obtain ⟨rfl, rfl⟩ := Prod.mk.inj (Except.ok.inj h)
      exact ⟨hnew, _, ⟨kind, hkind, rfl⟩, ids', hrest, rfl⟩
  · rintro ⟨hnew, _, ⟨kind, hkind, rfl⟩, ids', hrest, rfl⟩
    refine ⟨kind, hkind, ?_⟩
    rw [TypeGraph.register_eq_ok_iff.2 ⟨hnew, hlength, rfl⟩]
    exact bind_eq_ok_iff.2 ⟨(ids', g'), hrest, rfl⟩

/-- **The first pass** registers every type exactly if the kinds are those of named types and the
names are new and distinct. -/
theorem declareFrom_eq_ok_iff {index : Nat} {g g' : TypeGraph} {decls : List TypeDecl}
    {ids : List TypeId} (hnodup : (g.types.map (·.name)).Nodup)
    (hlength : g.types.length + decls.length ≤ TypeGraph.capacity) :
    declareFrom index g decls = .ok (ids, g') ↔
      (g.types.map (·.name) ++ decls.map (·.name)).Nodup
        ∧ ∃ types, List.Forall₂ TypeDecl.Registers decls types
          ∧ ids = addressesFrom g.types.length decls.length
          ∧ g' = { g with types := g.types ++ types } := by
  induction decls generalizing index g ids with
  | nil => simp [declareFrom, hnodup, addressesFrom, eq_comm]
  | cons decl decls ih =>
    rw [List.length_cons] at hlength
    -- The names after the step are those before it and the new one, in this order.
    have hstep {t : NamedType} (ht : decl.Registers t) :
        (g.types ++ [t]).map (·.name) ++ decls.map (·.name)
          = g.types.map (·.name) ++ (decl :: decls).map (·.name) := by
      simp [ht.name]
    have hcount {t : NamedType} : (g.types ++ [t]).length = g.types.length + 1 := by simp
    rw [declareFrom_cons_eq_ok_iff (by omega)]
    constructor
    · rintro ⟨hnew, t, ht, ids', hrest, rfl⟩
      have hnodup' : ((g.types ++ [t]).map (·.name)).Nodup := by
        rw [List.map_append, List.map_singleton, ht.name]
        refine List.nodup_append.2 ⟨hnodup, List.nodup_singleton _, ?_⟩
        rintro name hname _ hmem rfl
        exact hnew (List.mem_singleton.1 hmem ▸ hname)
      obtain ⟨hnames, types, htypes, rfl, rfl⟩ := (ih hnodup' (by rw [hcount]; omega)).1 hrest
      refine ⟨hstep ht ▸ hnames, t :: types, .cons ht htypes, ?_, by simp⟩
      rw [hcount, List.length_cons, addressesFrom_succ]
    · rintro ⟨hnames, types, htypes, rfl, rfl⟩
      cases htypes with
      | @cons _ t _ types ht htypes =>
        have hnew : decl.name ∉ g.types.map (·.name) := fun h ↦
          (List.nodup_append.1 hnames).2.2 _ h _ List.mem_cons_self rfl
        have hnodup' : ((g.types ++ [t]).map (·.name)).Nodup := by
          rw [← hstep ht] at hnames
          exact (List.nodup_append.1 hnames).1
        refine ⟨hnew, t, ht, addressesFrom (g.types.length + 1) decls.length, ?_,
          addressesFrom_succ _ _⟩
        refine (ih hnodup' (by rw [hcount]; omega)).2 ⟨hstep ht ▸ hnames, types, htypes, ?_, ?_⟩
        · rw [hcount]
        · simp

theorem declare_eq_ok_iff {types : List TypeDecl} {ids : List TypeId} {g : TypeGraph}
    (hlength : types.length ≤ TypeGraph.capacity) :
    declare types = .ok (ids, g) ↔
      (types.map (·.name)).Nodup
        ∧ ∃ registered, List.Forall₂ TypeDecl.Registers types registered
          ∧ ids = addressesFrom 0 types.length
          ∧ g = { TypeGraph.empty with types := registered } := by
  have hnodup : (TypeGraph.empty.types.map (·.name)).Nodup := List.nodup_nil
  rw [declare, declareFrom_eq_ok_iff hnodup (by simpa [TypeGraph.empty] using hlength)]
  rfl

/-! ## The second pass -/

theorem TypeDecl.Heads.setBody {decl : TypeDecl} {t : NamedType} (h : decl.Heads t)
    {body : TypeBody} (hbody : body.kind = t.kind) : decl.Heads { t with body } :=
  ⟨h.name, h.description, h.kind.trans (congrArg TypeKind.tag hbody.symm)⟩

/-- What a graph that outlines a document looks like at the place of a declaration. -/
theorem TypeGraph.Outlines.of_append {doc : Document} {g : TypeGraph} {before rest : List TypeDecl}
    {front back : List NamedType} (hnames : (doc.types.map (·.name)).Nodup)
    (hdoc : doc.types = before ++ rest) (hfront : List.Forall₂ TypeDecl.Heads before front)
    (hback : List.Forall₂ TypeDecl.Heads rest back) (hg : g.types = front ++ back) :
    g.Outlines doc := by
  refine ⟨?_, hnames⟩
  rw [hdoc, hg]
  exact List.rel_append hfront hback

/-- **A step of the second pass** succeeds exactly if the declaration is well-formed. -/
theorem fillBody_eq_ok_iff {doc : Document} {g g' : TypeGraph} (hg : g.Outlines doc)
    {decl : TypeDecl} {id : TypeId} {t : NamedType} (ht : g.get? id = some t) :
    fillBody g decl id = .ok g' ↔
      decl.WellFormed doc t.kind
        ∧ ∃ body, body.kind = t.kind ∧ decl.DenotesBody doc body ∧ g' = g.setBody id body := by
  have hkind : g.kindOf? id = some t.kind := TypeGraph.kindOf?_eq_some_iff.2 ⟨t, ht, rfl⟩
  simp only [fillBody, hkind, map_eq_ok_iff, resolveBody_eq_ok_iff hg]
  constructor
  · rintro ⟨body, ⟨hdecl, hbody⟩, rfl⟩
    exact ⟨hdecl, body, hbody.1, hbody.2, rfl⟩
  · rintro ⟨hdecl, body, hkind, hbody, rfl⟩
    exact ⟨body, ⟨hdecl, hkind, hbody⟩, rfl⟩

/-- The type that the second pass makes of a declaration, which has to be well-formed. -/
def TypeDecl.Fills (doc : Document) (decl : TypeDecl) (t : NamedType) : Prop :=
  decl.WellFormed doc t.kind ∧ decl.Denotes doc t

/-- A type that a declaration denotes differs from the registered type in the body only. -/
theorem TypeDecl.Denotes.eq_setBody {doc : Document} {decl : TypeDecl} {t t' : NamedType}
    (h : decl.Denotes doc t') (ht : decl.Heads t) :
    t'.kind = t.kind ∧ t' = { t with body := t'.body } := by
  refine ⟨TypeKind.tag_injective (h.kind.symm.trans ht.kind), ?_⟩
  rw [ht.name, ht.description, ← h.name, ← h.description]

/-- **The second pass**, from any place on.  Before that place the bodies are filled, from it on
they may hold anything. -/
theorem fillBodies_eq_ok_iff {doc : Document} (hnames : (doc.types.map (·.name)).Nodup)
    {before rest : List TypeDecl} {front back : List NamedType} {g g' : TypeGraph}
    (hdoc : doc.types = before ++ rest) (hfront : List.Forall₂ TypeDecl.Heads before front)
    (hback : List.Forall₂ TypeDecl.Heads rest back) (hg : g.types = front ++ back) :
    fillBodies g (rest.zip (addressesFrom front.length rest.length)) = .ok g' ↔
      ∃ filled, List.Forall₂ (TypeDecl.Fills doc) rest filled
        ∧ g' = { g with types := front ++ filled } := by
  induction hback generalizing before front g with
  | nil =>
    simp [fillBodies, ← hg, eq_comm]
  | @cons decl t rest back ht hback ih =>
    have houtlines := TypeGraph.Outlines.of_append hnames hdoc hfront (.cons ht hback) hg
    have hget : g.get? ⟨front.length⟩ = some t := by
      rw [TypeGraph.get?, hg, List.getElem?_append_right (Nat.le_refl _), Nat.sub_self]
      rfl
    have hdoc' : doc.types = (before ++ [decl]) ++ rest := by simp [hdoc]
    -- The rest of the run starts in a graph with one more body filled.
    have hrest {body : TypeBody} (hbody : body.kind = t.kind) := ih hdoc'
      (List.rel_append hfront (.cons (ht.setBody hbody) .nil))
      ((TypeGraph.types_setBody_append hg body).trans (List.append_cons ..))
    rw [List.length_cons, addressesFrom_succ, List.zip_cons_cons, fillBodies, bind_eq_ok_iff]
    simp only [fillBody_eq_ok_iff houtlines hget]
    simp only [List.length_append, List.length_singleton] at hrest
    constructor
    · rintro ⟨_, ⟨hdecl, body, hbody, hdenotes, rfl⟩, h⟩
      obtain ⟨filled, hfilled, rfl⟩ := (hrest hbody).1 h
      refine ⟨{ t with body } :: filled, .cons ⟨?_, ht.setBody hbody, hdenotes⟩ hfilled, ?_⟩
      · exact (hbody ▸ hdecl : decl.WellFormed doc body.kind)
      · simp [TypeGraph.setBody, TypeGraph.modify]
    · rintro ⟨filled, hfilled, rfl⟩
      cases hfilled with
      | @cons _ t' _ filled ht' hfilled =>
        obtain ⟨hkind, heq⟩ := ht'.2.eq_setBody ht
        refine ⟨g.setBody ⟨front.length⟩ t'.body, ⟨hkind ▸ ht'.1, t'.body, hkind, ht'.2.body, rfl⟩,
          (hrest hkind).2 ⟨filled, hfilled, ?_⟩⟩
        rw [← heq]
        simp [TypeGraph.setBody, TypeGraph.modify]

/-! ## The whole document -/

theorem TypeDecl.Registers.heads {decls : List TypeDecl} {types : List NamedType}
    (h : List.Forall₂ TypeDecl.Registers decls types) : List.Forall₂ TypeDecl.Heads decls types :=
  h.imp fun _ _ ↦ TypeDecl.Registers.toHeads

/-- What the first pass makes of a document with declared kinds. -/
theorem Document.WellFormed.exists_registers {doc : Document} (h : doc.WellFormed) :
    ∃ types, List.Forall₂ TypeDecl.Registers doc.types types := by
  refine exists_forall₂ fun decl hmem ↦ ?_
  obtain ⟨kind, hkind⟩ := h.kinds decl hmem
  exact ⟨_, TypeDecl.registers_iff.2 ⟨kind, hkind, rfl⟩⟩

/-- In a well-formed document the types that mirror the declarations are those that fill them. -/
theorem Document.WellFormed.fills {doc : Document} (h : doc.WellFormed) {types : List NamedType}
    (htypes : List.Forall₂ (TypeDecl.Denotes doc) doc.types types) :
    List.Forall₂ (TypeDecl.Fills doc) doc.types types := by
  have hand : ∀ decl ∈ doc.types, ∀ t, decl.Denotes doc t → decl.Fills doc t :=
    fun decl hmem t ht ↦ ⟨h.members decl hmem t.kind ht.kind, ht⟩
  generalize doc.types = decls at htypes hand
  induction htypes with
  | nil => exact .nil
  | cons ht _ ih =>
    exact .cons (hand _ List.mem_cons_self _ ht)
      (ih fun decl hmem ↦ hand decl (List.mem_cons_of_mem _ hmem))

/-- A document whose declarations are all filled, and whose roots are found, is well-formed. -/
theorem Document.wellFormed_of_fills {doc : Document} (hnames : (doc.types.map (·.name)).Nodup)
    {types : List NamedType} (htypes : List.Forall₂ (TypeDecl.Fills doc) doc.types types)
    {roots : RootTypes} (hquery : doc.DenotesRoot doc.query? roots.query?)
    (hmutation : doc.DenotesRoot doc.mutation? roots.mutation?)
    (hsubscription : doc.DenotesRoot doc.subscription? roots.subscription?) : doc.WellFormed where
  kinds decl hmem := by
    obtain ⟨t, ht⟩ := exists_of_forall₂ htypes hmem
    exact ⟨t.kind, ht.2.kind⟩
  names := hnames
  members decl hmem kind hkind := by
    obtain ⟨t, ht⟩ := exists_of_forall₂ htypes hmem
    exact TypeKind.tag_injective (ht.2.kind.symm.trans hkind) ▸ ht.1
  query := hquery.declares
  mutation := hmutation.declares
  subscription := hsubscription.declares

theorem Document.resolve_eq_ok_iff {doc : Document}
    (hlength : doc.types.length ≤ TypeGraph.capacity) {g : TypeGraph} :
    doc.resolve = .ok g ↔ doc.WellFormed ∧ g.Mirrors doc := by
  simp only [Document.resolve, bind_eq_ok_iff, Prod.exists, declare_eq_ok_iff hlength]
  constructor
  · rintro ⟨_, _, ⟨hnames, registered, hregistered, rfl, rfl⟩, filled, hfilled, roots, hroots, h⟩
    obtain rfl := Except.ok.inj h
    have hheads := TypeDecl.Registers.heads hregistered
    obtain ⟨types, htypes, rfl⟩ := (fillBodies_eq_ok_iff hnames rfl .nil hheads rfl).1 hfilled
    have hdenotes : List.Forall₂ (TypeDecl.Denotes doc) doc.types types :=
      htypes.imp fun _ _ ↦ And.right
    have houtlines : TypeGraph.Outlines { TypeGraph.empty with types := [] ++ types } doc :=
      ⟨hdenotes.imp fun _ _ ↦ TypeDecl.Denotes.toHeads, hnames⟩
    obtain ⟨hquery, hmutation, hsubscription⟩ := (resolveRoots_eq_ok_iff houtlines).1 hroots
    exact ⟨Document.wellFormed_of_fills hnames htypes hquery hmutation hsubscription, hdenotes,
      hquery, hmutation, hsubscription⟩
  · rintro ⟨hdoc, hmirrors⟩
    obtain ⟨registered, hregistered⟩ := hdoc.exists_registers
    have hheads := TypeDecl.Registers.heads hregistered
    have houtlines : TypeGraph.Outlines { TypeGraph.empty with types := g.types } doc :=
      ⟨hmirrors.types.imp fun _ _ ↦ TypeDecl.Denotes.toHeads, hdoc.names⟩
    refine ⟨_, _, ⟨hdoc.names, registered, hregistered, rfl, rfl⟩, _,
      (fillBodies_eq_ok_iff hdoc.names rfl .nil hheads rfl).2
        ⟨g.types, hdoc.fills hmirrors.types, rfl⟩, g.roots, ?_, rfl⟩
    exact (resolveRoots_eq_ok_iff houtlines).2
      ⟨hmirrors.query, hmirrors.mutation, hmirrors.subscription⟩

/-- **A document has a type graph exactly if it is well-formed, and the graph is its mirror.** -/
theorem resolve_accepts_exactly_wellFormed (doc : Document)
    (hlength : doc.types.length ≤ TypeGraph.capacity) :
    ((∃ g, doc.resolve = .ok g) ↔ doc.WellFormed)
      ∧ ∀ g, doc.resolve = .ok g ↔ doc.WellFormed ∧ g.Mirrors doc := by
  refine ⟨?_, fun g ↦ Document.resolve_eq_ok_iff hlength⟩
  constructor
  · rintro ⟨g, hg⟩
    exact ((Document.resolve_eq_ok_iff hlength).1 hg).1
  · intro hdoc
    obtain ⟨g, hg⟩ := hdoc.exists_mirrors
    exact ⟨g, (Document.resolve_eq_ok_iff hlength).2 ⟨hdoc, hg⟩⟩

/-- Two types that refer to themselves and to each other through wrappers.  The enum values of the
object belong to another kind and are not read, however they repeat. -/
def cyclicDocument : Document where
  query? := some "Node"
  mutation? := none
  subscription? := none
  types := [
    { kind := "OBJECT", name := "Node", description? := some "A node.",
      fields? := some [
        { name := "parent", description? := none, args? := none, type := .plain "OBJECT" "Node",
          isDeprecated := true, deprecationReason? := some "Unused." },
        { name := "edges", description? := none,
          args? := some [⟨"where", none, .plain "INPUT_OBJECT" "Filter", some "{}"⟩],
          type := .wrapping "NON_NULL" none (.wrapping "LIST" none
            (.wrapping "NON_NULL" none (.wrapping "OBJECT" "Node" (.plain "?" none)))),
          isDeprecated := false, deprecationReason? := none }],
      interfaces? := none, possibleTypes? := some [.plain "LIST" none],
      enumValues? := some [⟨"A", none, false, none⟩, ⟨"A", none, false, none⟩],
      inputFields? := none },
    { kind := "INPUT_OBJECT", name := "Filter", description? := none, fields? := none,
      interfaces? := none, possibleTypes? := none, enumValues? := none,
      inputFields? := some [⟨"not", none, .plain "INPUT_OBJECT" "Filter", none⟩] }]

theorem cyclicDocument_wellFormed :
    cyclicDocument.types.length ≤ TypeGraph.capacity ∧ cyclicDocument.WellFormed :=
  ⟨by decide, (resolve_accepts_exactly_wellFormed cyclicDocument (by decide)).1.1 ⟨_, rfl⟩⟩

end Schema
end QueryBuilder
