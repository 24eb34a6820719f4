import QueryBuilder.Proofs.Code.Heads
import QueryBuilder.Proofs.Schema.Sound

/-!
# What overrides change

Overrides give sources to scalars.  A scalar has no unit of its own, so all that is seen of its
source is the aliases unit.

* `TypeGraph.unsourced` — a graph without the sources of its scalars.  Merging overrides keeps it
  (`TypeGraph.unsourced_merge`).
* `typeUnits_congr` — the units of types are made from it.
* `Output.SameBesideAliases` — two outputs differ at most in the text of the aliases unit.  Appending
  files leaves such an output, wherever it stops (`Output.sameBesideAliases_appendFiles`).
* `overrides_change_only_aliases` — all of it together.
-/

set_option autoImplicit false

namespace QueryBuilder
namespace Schema

/-! ## Graphs without sources -/

/-- The type without the source of a scalar. -/
def NamedType.unsourced (t : NamedType) : NamedType :=
  match t.body with
  | .scalar _ => { t with body := .scalar none }
  | _ => t

namespace NamedType

theorem unsourced_of_kind_ne {t : NamedType} (h : t.kind ≠ .scalar) : t.unsourced = t := by
  rw [unsourced]
  split
  · rename_i heq
    exact absurd (congrArg TypeBody.kind heq) h
  · rfl

theorem unsourced_of_kind_eq {t : NamedType} (h : t.kind = .scalar) :
    t.unsourced = { t with body := .scalar none } := by
  obtain ⟨name, description?, body⟩ := t
  cases body with
  | scalar source? => rfl
  | _ => cases h

theorem keepsHeads_unsourced : KeepsHeads unsourced where
  name t := by
    rw [unsourced]
    split <;> rfl
  kind t := by
    by_cases h : t.kind = .scalar
    · rw [unsourced_of_kind_eq h, h]
      rfl
    · rw [unsourced_of_kind_ne h]

end NamedType

namespace TypeGraph

/-- The graph without the sources of its scalars. -/
def unsourced (g : TypeGraph) : TypeGraph :=
  g.mapTypes NamedType.unsourced

/-- A new source of a scalar is not seen without sources. -/
theorem unsourced_setBody {g : TypeGraph} {id : TypeId} (hkind : g.kindOf? id = some .scalar)
    (source? : Option ScalarSource) : (g.setBody id (.scalar source?)).unsourced = g.unsourced := by
  refine congrArg (TypeGraph.mk · g.roots) (List.ext_getElem? fun i ↦ ?_)
  rw [List.getElem?_map, List.getElem?_map, getElem?_setBody, Option.map_map]
  refine Option.map_congr fun t ht ↦ ?_
  rw [Function.comp_apply]
  split_ifs with hi
  · obtain ⟨t', ht', hscalar⟩ := kindOf?_eq_some_iff.1 hkind
    rw [get?, hi, ht] at ht'
    obtain rfl := Option.some.inj ht'
    rw [NamedType.unsourced_of_kind_eq hscalar, NamedType.unsourced]
  · rfl

/-- **Overrides change nothing but sources.** -/
theorem unsourced_merge (overrides : List Override) (g : TypeGraph) :
    (Override.merge overrides g).1.unsourced = g.unsourced := by
  refine List.foldlRecOn
    (motive := fun state : TypeGraph × MergeReport ↦ state.1.unsourced = g.unsourced)
    overrides Override.mergeOne rfl fun state hstate o _ ↦ ?_
  rcases mergeOne_cases state.1 state.2 o with heq | ⟨id, hkind, heq⟩
  · rw [heq, hstate]
  · rw [heq, unsourced_setBody hkind, hstate]

end TypeGraph
end Schema

namespace Code

open Schema

/-! ## Units of types -/

section

variable (g : TypeGraph) (options : Options)

theorem typeUnit?_unsourced (names : Names) (entry : TypeId × NamedType) :
    typeUnit? g options names (entry.1, entry.2.unsourced) = typeUnit? g options names entry := by
  by_cases h : entry.2.kind = .scalar
  · rw [NamedType.unsourced_of_kind_eq h, typeUnit?, typeUnit?, h]
    rfl
  · rw [NamedType.unsourced_of_kind_ne h]

theorem typeUnits_unsourced (names : Names) :
    typeUnits g.unsourced options names = typeUnits g options names := by
  rw [TypeGraph.unsourced, typeUnits_mapTypes NamedType.keepsHeads_unsourced, typeUnits]
  exact List.filterMap_congr fun entry _ ↦ typeUnit?_unsourced g options names entry

end

/-- **The units of types do not depend on sources of scalars.** -/
theorem typeUnits_congr {g g' : TypeGraph} (h : g'.unsourced = g.unsourced) (options : Options) :
    typeUnits g' options (Names.ofGraph g' options)
      = typeUnits g options (Names.ofGraph g options) := by
  rw [← typeUnits_unsourced g', ← typeUnits_unsourced g,
    ← Names.ofGraph_mapTypes NamedType.keepsHeads_unsourced g',
    ← Names.ofGraph_mapTypes NamedType.keepsHeads_unsourced g]
  rw [TypeGraph.unsourced, TypeGraph.unsourced] at h
  rw [TypeGraph.unsourced, TypeGraph.unsourced, h]

/-! ## Outputs -/

theorem forall₂_trans {α : Type} {R : α → α → Prop} (hR : ∀ a b c, R a b → R b c → R a c)
    {l m n : List α} (h : List.Forall₂ R l m) (h' : List.Forall₂ R m n) : List.Forall₂ R l n := by
  induction h generalizing n with
  | nil => exact h'
  | cons hab _ ih =>
    obtain ⟨c, rest, hbc, hrest, rfl⟩ := List.forall₂_cons_left_iff.1 h'
    exact .cons (hR _ _ c hab hbc) (ih hrest)

/-- The second unit has the kind and the path of the first, and unless it is an aliases unit the same
text. -/
structure CodeUnit.SameBesideAliases (u w : CodeUnit) : Prop where
  kind : w.kind = u.kind
  path : w.path = u.path
  content : u.kind ≠ .aliases → w.content = u.content

theorem CodeUnit.SameBesideAliases.refl (u : CodeUnit) : u.SameBesideAliases u :=
  ⟨rfl, rfl, fun _ ↦ rfl⟩

theorem CodeUnit.SameBesideAliases.trans {u v w : CodeUnit} (h : u.SameBesideAliases v)
    (h' : v.SameBesideAliases w) : u.SameBesideAliases w :=
  ⟨h'.kind.trans h.kind, h'.path.trans h.path,
    fun hkind ↦ (h'.content (h.kind ▸ hkind)).trans (h.content hkind)⟩

theorem CodeUnit.sameBesideAliases_append {u : CodeUnit} (h : u.kind = .aliases)
    (source : String) : u.SameBesideAliases (u.append source) :=
  ⟨rfl, rfl, fun hne ↦ absurd h hne⟩

namespace Output

/-- The outputs have as many units, in the same order and with the same kinds and paths, and differ
at most in the texts of aliases units. -/
def SameBesideAliases (o o' : Output) : Prop :=
  List.Forall₂ CodeUnit.SameBesideAliases o.units o'.units

theorem SameBesideAliases.refl (o : Output) : o.SameBesideAliases o :=
  List.forall₂_same.2 fun u _ ↦ .refl u

theorem SameBesideAliases.trans {o o' o'' : Output} (h : o.SameBesideAliases o')
    (h' : o'.SameBesideAliases o'') : o.SameBesideAliases o'' :=
  forall₂_trans (R := CodeUnit.SameBesideAliases) (fun _ _ _ huv hvw ↦ huv.trans hvw) h h'

/-- Adding source once. -/
theorem sameBesideAliases_appendToAliases (o : Output) (source : String) :
    o.SameBesideAliases (o.appendToAliases source) := by
  rw [SameBesideAliases, appendToAliases, List.forall₂_map_right_iff]
  refine List.forall₂_same.2 fun u _ ↦ ?_
  split_ifs with hkind
  · exact u.sameBesideAliases_append hkind source
  · exact .refl u

section

variable {σ ε : Type} (load : Path → StateM σ (Except ε String))

/-- Adding files, up to the end or up to one that cannot be loaded. -/
theorem sameBesideAliases_appendAll (o : Output) (files : List Path) (s : σ) :
    o.SameBesideAliases ((o.appendAll load files).run s).1.1 := by
  induction files generalizing o s with
  | nil => exact .refl o
  | cons path rest ih =>
    rw [appendAll, StateT.run_bind]
    rcases (load path).run s with ⟨loaded, s'⟩
    cases loaded with
    | error e => exact .refl o
    | ok source => exact (o.sameBesideAliases_appendToAliases source).trans (ih _ s')

theorem sameBesideAliases_appendFiles (o : Output) (g : TypeGraph) (overrides : List Override)
    (s : σ) : o.SameBesideAliases ((o.appendFiles load g overrides).run s).1.1 :=
  sameBesideAliases_appendAll load o (effectiveFiles overrides g) s

end

end Output

theorem sameBesideAliases_generate {g g' : TypeGraph} (h : g'.unsourced = g.unsourced)
    (options : Options) : (generate g options).SameBesideAliases (generate g' options) := by
  rw [Output.SameBesideAliases, generate, generate, typeUnits_congr h]
  exact .cons (.refl _) (.cons ⟨rfl, rfl, fun hne ↦ absurd rfl hne⟩
    (List.forall₂_same.2 fun u _ ↦ .refl u))

theorem TypeUnit.kind_ne_aliases {g : TypeGraph} {options : Options} {names : Names}
    {u : TypeUnit} (h : u ∈ typeUnits g options names) : u.kind ≠ .aliases := by
  obtain ⟨entry, -, hu⟩ := List.mem_filterMap.1 h
  obtain ⟨module, -, hu⟩ := Option.bind_eq_some_iff.1 hu
  obtain ⟨kind, hkind, hu⟩ := Option.bind_eq_some_iff.1 hu
  obtain ⟨declaration, -, hu⟩ := Option.bind_eq_some_iff.1 hu
  obtain rfl := Option.some.inj hu
  rintro rfl
  cases hentry : entry.2.kind <;> rw [hentry] at hkind <;> cases hkind

/-- **There is one aliases unit.** -/
theorem ofKind_aliases_generate (g : TypeGraph) (options : Options) :
    (generate g options).ofKind .aliases
      = [aliasesUnit g options (Names.ofGraph g options)] := by
  have hunits : ((typeUnits g options (Names.ofGraph g options)).map (·.toUnit options)).filter
      (fun u ↦ u.kind == .aliases) = [] := by
    rw [List.filter_eq_nil_iff, List.forall_mem_map]
    exact fun u hu heq ↦ TypeUnit.kind_ne_aliases hu (beq_iff_eq.1 heq)
  rw [Output.ofKind, generate, List.filter_cons_of_neg Bool.false_ne_true,
    List.filter_cons_of_pos rfl, hunits]

/-- **Overrides change the aliases unit and nothing else.**  There is one such unit.  Generating for a
graph into which overrides have been merged gives the units that there were before, with the same
kinds and paths and in the same order, and all but that one have the same texts; and so does adding
override files to an output, whether all of them can be loaded or not. -/
theorem overrides_change_only_aliases (g : TypeGraph) (options : Options)
    (overrides : List Override) :
    ((generate g options).ofKind .aliases).length = 1
      ∧ (generate g options).SameBesideAliases
          (generate (Override.merge overrides g).1 options)
      ∧ ∀ (σ ε : Type) (load : Path → StateM σ (Except ε String)) (o : Output)
          (merged : TypeGraph) (appended : List Override) (s : σ),
        o.SameBesideAliases ((o.appendFiles load merged appended).run s).1.1 := by
  refine ⟨?_, sameBesideAliases_generate (TypeGraph.unsourced_merge overrides g) options,
    fun _ _ load o merged appended s ↦ o.sameBesideAliases_appendFiles load merged appended s⟩
  rw [ofKind_aliases_generate, List.length_singleton]

end Code
end QueryBuilder
