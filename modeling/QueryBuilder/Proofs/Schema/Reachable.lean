import QueryBuilder.Proofs.Schema.Sound

/-!
# The graphs that can be reached

A type graph is made by registering types or from an introspection result, and overrides may be
merged into it.  It is kept with an index that maps names to addresses: two structures, of which the
second never looks at the first.  They agree in every graph that calls can make.

## What is here

* `IndexedGraph` — a graph and its index, with `lookup`, `register` and `merge` as calls to the two.
* `IndexedGraph.Reachable` — what calls leave, failing ones included.
* `IndexedGraph.Reachable.invariant` — every reachable graph is sound and its index lists the names
  with their places (`TypeGraph.index`), so a look-up finds what a search of the graph finds.
* `IndexedGraph.reachable_graph_consistent` — what that means for look-up, for iteration, for the
  next registration and for all addresses in the graph.
-/

set_option autoImplicit false

namespace QueryBuilder
namespace Schema

/-! ## Calls -/

/-- A graph and the index it is searched by: the registered names in order, with addresses. -/
structure IndexedGraph where
  graph : TypeGraph
  index : List (String × TypeId)
  deriving DecidableEq

namespace IndexedGraph

/-- Asks the index for a name. -/
def lookup (s : IndexedGraph) (name : String) : Option TypeId :=
  s.index.lookup name

/-- The addresses in the order of the index, with what stands there. -/
def iter (s : IndexedGraph) : List (TypeId × Option NamedType) :=
  s.index.map fun (_, id) ↦ (id, s.graph.get? id)

/-- A call of `register`: its answer, and what it leaves. -/
def register (s : IndexedGraph) (name : String) (description? : Option String) (kind : TypeKind) :
    Except RegisterError TypeId × IndexedGraph :=
  if (s.lookup name).isSome then (.error (.duplicate name), s)
  else if s.graph.types.length < TypeGraph.capacity then
    let id : TypeId := ⟨s.graph.types.length⟩
    let types := s.graph.types ++ [⟨name, description?, .empty kind⟩]
    (.ok id, ⟨{ s.graph with types }, s.index ++ [(name, id)]⟩)
  else (.error (.capacity s.graph.types.length), s)

/-- Overrides change the graph and not the index. -/
def merge (overrides : List Override) (s : IndexedGraph) : IndexedGraph :=
  ⟨(Override.merge overrides s.graph).1, s.index⟩

/-- Calls lead to the graph and the index.  The first pass of an ingestion adds every declared name
with the address that it got; the second leaves the index as it is. -/
inductive Reachable : IndexedGraph → Prop
  | empty : Reachable ⟨.empty, []⟩
  | ingested {json : Json} {doc : Document} {ids : List TypeId} {declared g : TypeGraph}
      (hjson : ofJson json = .ok g) (hdoc : Document.ofJson json = .ok doc)
      (hdeclare : declare doc.types = .ok (ids, declared)) :
      Reachable ⟨g, (doc.types.map (·.name)).zip ids⟩
  | register {s : IndexedGraph} (h : Reachable s) (name : String) (description? : Option String)
      (kind : TypeKind) : Reachable (s.register name description? kind).2
  | merge {s : IndexedGraph} (h : Reachable s) (overrides : List Override) :
      Reachable (s.merge overrides)

end IndexedGraph

/-! ## The capacity -/

/-- The first pass stops where addresses run out. -/
theorem declareFrom_length_le {index : Nat} {g g' : TypeGraph} {decls : List TypeDecl}
    {ids : List TypeId} (hg : g.types.length ≤ TypeGraph.capacity)
    (h : declareFrom index g decls = .ok (ids, g')) :
    g.types.length + decls.length ≤ TypeGraph.capacity := by
  induction decls generalizing index g ids with
  | nil => exact hg
  | cons decl decls ih =>
    simp only [declareFrom, bind_eq_ok_iff] at h
    obtain ⟨kind, -, h⟩ := h
    cases hregister : g.register decl.name decl.description? kind with
    | error e =>
      rw [hregister] at h
      cases h
    | ok r =>
      obtain ⟨-, hlt, rfl⟩ := TypeGraph.register_eq_ok_iff.1 hregister
      rw [hregister] at h
      obtain ⟨⟨ids', _⟩, hrest, h⟩ := bind_eq_ok_iff.1 h
      obtain ⟨rfl, rfl⟩ := Prod.mk.inj (Except.ok.inj h)
      have := ih (by rw [List.length_append]; exact hlt) hrest
      simp only [List.length_append, List.length_singleton] at this
      simp only [List.length_cons]
      omega

theorem declare_length_le {types : List TypeDecl} {ids : List TypeId} {declared : TypeGraph}
    (h : declare types = .ok (ids, declared)) : types.length ≤ TypeGraph.capacity := by
  have := declareFrom_length_le (Nat.zero_le _) h
  simpa [TypeGraph.empty] using this

/-! ## The index -/

/-- The names of the types with their places. -/
def TypeGraph.index (g : TypeGraph) : List (String × TypeId) :=
  (g.types.map (·.name)).zip (addressesFrom 0 g.types.length)

namespace TypeGraph

theorem addressesFrom_add (start count count' : Nat) :
    addressesFrom start (count + count')
      = addressesFrom start count ++ addressesFrom (start + count) count' := by
  rw [addressesFrom, addressesFrom, addressesFrom, ← List.map_append, List.range'_append_1]

theorem length_addressesFrom (start count : Nat) : (addressesFrom start count).length = count := by
  rw [addressesFrom, List.length_map, List.length_range']

/-- The new entry of the index stands last. -/
theorem index_add (g : TypeGraph) (t : NamedType) :
    index { g with types := g.types ++ [t] } = g.index ++ [(t.name, ⟨g.types.length⟩)] := by
  have hlength : (g.types.map (·.name)).length = (addressesFrom 0 g.types.length).length := by
    rw [length_addressesFrom, List.length_map]
  rw [index, index, List.map_append, List.length_append, addressesFrom_add,
    List.zip_append hlength, Nat.zero_add]
  rfl

theorem lookup_zip_addressesFrom (types : List NamedType) (name : String) (start : Nat) :
    ((types.map (·.name)).zip (addressesFrom start types.length)).lookup name
      = (types.findIdx? fun t ↦ t.name == name).map fun i ↦ ⟨start + i⟩ := by
  induction types generalizing start with
  | nil => rfl
  | cons t types ih =>
    rw [List.length_cons, addressesFrom_succ, List.map_cons, List.zip_cons_cons, List.lookup_cons,
      List.findIdx?_cons, ih, BEq.comm]
    cases t.name == name
    · simp [Function.comp_def, Nat.add_assoc, Nat.add_comm 1]
    · rfl

/-- **A look-up in the index is a search of the names.** -/
theorem lookup_index (g : TypeGraph) (name : String) : g.index.lookup name = g.lookup name := by
  rw [index, lookup_zip_addressesFrom, lookup]
  simp only [Nat.zero_add]

theorem index_congr {g g' : TypeGraph} (h : g.types.map (·.name) = g'.types.map (·.name)) :
    g.index = g'.index := by
  have hlength := congrArg List.length h
  rw [List.length_map, List.length_map] at hlength
  rw [index, index, h, hlength]

theorem map_snd_index (g : TypeGraph) :
    g.index.map (·.2) = (List.range g.types.length).map TypeId.mk := by
  rw [index, List.map_snd_zip (by simp [length_addressesFrom]), addressesFrom,
    List.range_eq_range']

theorem entries_eq_map_range (g : TypeGraph) :
    (g.entries.map fun (id, t) ↦ (id, some t))
      = (List.range g.types.length).map fun i ↦ (⟨i⟩, g.types[i]?) := by
  refine List.ext_getElem (by simp [entries]) fun i h h' ↦ ?_
  have hi : i < g.types.length := by simpa [entries] using h
  simp [entries, hi]

end TypeGraph

/-! ## All calls -/

namespace IndexedGraph

/-- While the index lists the names with their places, `register` does to the graph what it would
do without an index, and keeps the index in step. -/
theorem register_eq {s : IndexedGraph} (h : s.index = s.graph.index) (name : String)
    (description? : Option String) (kind : TypeKind) :
    s.register name description? kind
      = match s.graph.register name description? kind with
        | .ok (id, g) => (.ok id, ⟨g, g.index⟩)
        | .error e => (.error e, s) := by
  rw [register, TypeGraph.register, lookup, h, TypeGraph.lookup_index]
  cases s.graph.lookup name with
  | some id => rfl
  | none =>
    by_cases hlt : s.graph.types.length < TypeGraph.capacity
    · simp [hlt, TypeGraph.index_add]
    · simp [hlt]

/-- Every graph of an introspection result is reachable, with the index that its first pass made. -/
theorem Reachable.exists_of_ofJson {json : Json} {g : TypeGraph} (h : ofJson json = .ok g) :
    ∃ index, Reachable ⟨g, index⟩ := by
  obtain ⟨doc, hdoc, hresolve⟩ := bind_eq_ok_iff.1 h
  obtain ⟨⟨ids, declared⟩, hdeclare, -⟩ := bind_eq_ok_iff.1 hresolve
  exact ⟨_, .ingested h hdoc hdeclare⟩

/-- **The invariant.**  Every call keeps it, and every ingestion establishes it. -/
theorem Reachable.invariant {s : IndexedGraph} (h : s.Reachable) :
    s.graph.Sound ∧ s.index = s.graph.index := by
  induction h with
  | empty => exact ⟨.empty, rfl⟩
  | @ingested json doc ids declared g hjson hdoc hdeclare =>
    have hcapacity := declare_length_le hdeclare
    rw [ofJson, hdoc] at hjson
    obtain ⟨hwellFormed, hmirrors⟩ := (Document.resolve_eq_ok_iff hcapacity).1 hjson
    obtain ⟨-, _, -, rfl, -⟩ := (declare_eq_ok_iff hcapacity).1 hdeclare
    refine ⟨hmirrors.sound hwellFormed, ?_⟩
    rw [TypeGraph.index, (hmirrors.outlines hwellFormed).names_eq, hmirrors.types.length_eq]
  | @register s _ name description? kind ih =>
    obtain ⟨hsound, hindex⟩ := ih
    rw [register_eq hindex]
    cases hregister : s.graph.register name description? kind with
    | error e => exact ⟨hsound, hindex⟩
    | ok r =>
      obtain ⟨hnew, -, rfl⟩ := TypeGraph.register_eq_ok_iff.1 hregister
      exact ⟨hsound.add hnew description? kind, rfl⟩
  | @merge s _ overrides ih =>
    have hnames := TypeGraph.names_merge overrides s.graph
    exact ⟨ih.1.merge overrides, ih.2.trans (TypeGraph.index_congr hnames).symm⟩

/-- The graph and the index agree, and all addresses lead to types of the graph. -/
structure Consistent (s : IndexedGraph) : Prop where
  /-- No two types have one name. -/
  names : (s.graph.types.map (·.name)).Nodup
  /-- A look-up finds the address that has the name. -/
  lookup_iff : ∀ name id, s.lookup name = some id ↔
    id.index < s.graph.types.length ∧ s.graph.nameOf id = name
  /-- A search of the graph finds the same. -/
  lookup_graph : ∀ name, s.lookup name = s.graph.lookup name
  /-- Iteration goes through the places in order, and there is a type at each of them. -/
  iter : s.iter = (List.range s.graph.types.length).map fun i ↦ (⟨i⟩, s.graph.types[i]?)
  iter_graph : s.iter = s.graph.entries.map fun (id, t) ↦ (id, some t)
  /-- A registration fails for duplicates, among others, and then it changes nothing. -/
  register_duplicate : ∀ name description? kind,
    (s.register name description? kind).1 = .error (.duplicate name) ↔
      ∃ id, s.lookup name = some id
  register_error : ∀ name description? kind e,
    (s.register name description? kind).1 = .error e → (s.register name description? kind).2 = s
  /-- A registration that succeeds adds the type behind all others. -/
  register_ok : ∀ name description? kind id,
    (s.register name description? kind).1 = .ok id →
      (s.register name description? kind).2.iter
        = s.iter ++ [(id, some ⟨name, description?, .empty kind⟩)]
  /-- Where an address occurs, there is a type at it, which is found by its name. -/
  addresses : ∀ id ∈ s.graph.addresses,
    (∃ t, s.graph.get? id = some t) ∧ s.lookup (s.graph.nameOf id) = some id
  roots : ∀ id ∈ s.graph.roots.ids, s.graph.kindOf? id = some .object
  /-- No non-null marker stands directly around another. -/
  proper : ∀ t ∈ s.graph.types, ∀ ref ∈ t.body.refs, ref.IsProper

/-- What a call of `register` can do. -/
theorem register_cases (s : IndexedGraph) (name : String) (description? : Option String)
    (kind : TypeKind) :
    ((∃ id, s.lookup name = some id)
        ∧ s.register name description? kind = (.error (.duplicate name), s))
      ∨ s.lookup name = none
        ∧ (s.register name description? kind = (.error (.capacity s.graph.types.length), s)
          ∨ ∃ s' : IndexedGraph,
            s'.graph.types = s.graph.types ++ [⟨name, description?, .empty kind⟩]
            ∧ s.register name description? kind = (.ok ⟨s.graph.types.length⟩, s')) := by
  rw [register]
  cases hlookup : s.lookup name with
  | some id => exact .inl ⟨⟨id, rfl⟩, rfl⟩
  | none =>
    refine .inr ⟨rfl, ?_⟩
    by_cases hlt : s.graph.types.length < TypeGraph.capacity
    · refine .inr ⟨_, ?_, if_pos hlt⟩
      rfl
    · exact .inl (if_neg hlt)

section

variable {s : IndexedGraph} (hindex : s.index = s.graph.index)
include hindex

theorem lookup_eq (name : String) : s.lookup name = s.graph.lookup name := by
  rw [lookup, hindex, TypeGraph.lookup_index]

theorem iter_eq :
    s.iter = (List.range s.graph.types.length).map fun i ↦ (⟨i⟩, s.graph.types[i]?) := by
  rw [iter, hindex]
  have hmap := congrArg (List.map fun id ↦ (id, s.graph.get? id)) s.graph.map_snd_index
  rw [List.map_map, List.map_map] at hmap
  exact hmap

end

theorem iter_of_types_append {s s' : IndexedGraph} (hindex : s.index = s.graph.index)
    (hindex' : s'.index = s'.graph.index) {t : NamedType}
    (h : s'.graph.types = s.graph.types ++ [t]) :
    s'.iter = s.iter ++ [(⟨s.graph.types.length⟩, some t)] := by
  rw [iter_eq hindex, iter_eq hindex', h, List.length_append, List.length_singleton,
    List.range_succ, List.map_append, List.map_singleton, List.getElem?_concat_length]
  refine congrArg (· ++ _) (List.map_congr_left fun i hi ↦ ?_)
  rw [List.getElem?_append_left (List.mem_range.1 hi)]

theorem lookup_eq_some_iff {s : IndexedGraph} (hsound : s.graph.Sound)
    (hindex : s.index = s.graph.index) {name : String} {id : TypeId} :
    s.lookup name = some id ↔ id.index < s.graph.types.length ∧ s.graph.nameOf id = name := by
  rw [lookup_eq hindex, TypeGraph.lookup_eq_some_iff hsound.names, TypeGraph.nameOf,
    TypeGraph.get?]
  by_cases hlt : id.index < s.graph.types.length <;> simp [hlt]

/-- **Every graph that calls can make is consistent**, whatever the calls were and whether they
failed.  Every graph of an introspection result is one of them. -/
theorem reachable_graph_consistent :
    (∀ json g, ofJson json = .ok g → ∃ index, Reachable ⟨g, index⟩)
      ∧ ∀ s : IndexedGraph, s.Reachable → s.Consistent := by
  refine ⟨fun _ _ ↦ Reachable.exists_of_ofJson, fun s h ↦ ?_⟩
  obtain ⟨hsound, hindex⟩ := h.invariant
  have hlookup {name : String} {id : TypeId} :
      s.lookup name = some id ↔ id.index < s.graph.types.length ∧ s.graph.nameOf id = name :=
    lookup_eq_some_iff hsound hindex
  refine {
    names := hsound.names
    lookup_iff := fun name id ↦ hlookup
    lookup_graph := lookup_eq hindex
    iter := iter_eq hindex
    iter_graph := (iter_eq hindex).trans s.graph.entries_eq_map_range.symm
    register_duplicate := fun name description? kind ↦ ?_
    register_error := fun name description? kind e he ↦ ?_
    register_ok := fun name description? kind id hid ↦ ?_
    addresses := fun id hid ↦ ?_
    roots := hsound.roots
    proper := hsound.proper }
  · rcases s.register_cases name description? kind with
      ⟨htaken, heq⟩ | ⟨hfree, heq | ⟨s', -, heq⟩⟩ <;> rw [heq]
    · exact ⟨fun _ ↦ htaken, fun _ ↦ rfl⟩
    · simp [hfree]
    · simp [hfree]
  · rcases s.register_cases name description? kind with
      ⟨-, heq⟩ | ⟨-, heq | ⟨s', -, heq⟩⟩ <;> rw [heq] at he ⊢
    cases he
  · have hindex' := (h.register name description? kind).invariant.2
    rcases s.register_cases name description? kind with
      ⟨-, heq⟩ | ⟨-, heq | ⟨s', htypes, heq⟩⟩ <;> rw [heq] at hid hindex' ⊢
    · cases hid
    · cases hid
    · obtain rfl := Except.ok.inj hid
      exact iter_of_types_append hindex hindex' htypes
  · have hlt : id.index < s.graph.types.length := by
      rcases List.mem_append.1 hid with hid | hid
      · obtain ⟨t, ht, hid⟩ := List.mem_flatMap.1 hid
        exact hsound.references t ht id hid
      · exact TypeGraph.kindOf?_lt (hsound.roots id hid)
    exact ⟨⟨_, List.getElem?_eq_getElem hlt⟩, hlookup.2 ⟨hlt, rfl⟩⟩

/-- An introspection result: an object refers to itself and, in an argument, to a scalar. -/
def eventsJson : Json :=
  let event : Json := .object [("kind", .string "OBJECT"), ("name", .string "Event")]
  let date : Json := .object [("kind", .string "SCALAR"), ("name", .string "Date")]
  .object [("__schema", .object [
    ("queryType", .object [("name", .string "Event")]),
    ("types", .array [
      .object [("kind", .string "OBJECT"), ("name", .string "Event"),
        ("fields", .array [.object [("name", .string "next"),
          ("args", .array [.object [("name", .string "after"), ("type", date)]]),
          ("type", .object [("kind", .string "NON_NULL"), ("ofType", event)])]])],
      date])])]

/-- The graph of that result, after an attempt to register the scalar as an object, and an override
of it. -/
def eventsGraph : IndexedGraph where
  graph := ⟨[⟨"Event", none, .object
      [⟨"next", none, .nonNull (.named ⟨0⟩), [⟨"after", none, .named ⟨1⟩, none⟩], none⟩] []⟩,
    ⟨"Date", none, .scalar (some (.inline "pub type Date = u64;"))⟩], ⟨some ⟨0⟩, none, none⟩⟩
  index := [("Event", ⟨0⟩), ("Date", ⟨1⟩)]

theorem reachable_graph_consistent_events :
    (∃ g index, ofJson eventsJson = .ok g ∧ Reachable ⟨g, index⟩)
      ∧ eventsGraph.Reachable ∧ eventsGraph.Consistent := by
  obtain ⟨hreachable, hconsistent⟩ := reachable_graph_consistent
  have hjson : ofJson eventsJson = .ok _ := rfl
  have hingested := Reachable.ingested hjson rfl rfl
  have h : eventsGraph.Reachable :=
    (hingested.register "Date" none .object).merge [⟨"Date", .inline "pub type Date = u64;"⟩]
  obtain ⟨index, hindex⟩ := hreachable eventsJson _ hjson
  exact ⟨⟨_, index, hjson, hindex⟩, h, hconsistent _ h⟩

end IndexedGraph

end Schema
end QueryBuilder
