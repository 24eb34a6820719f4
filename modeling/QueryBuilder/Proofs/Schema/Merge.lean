import QueryBuilder.Proofs.Code.Heads
import QueryBuilder.Proofs.Distinct
import QueryBuilder.Proofs.Schema.Lookup
import QueryBuilder.Proofs.Success

/-!
# Merging overrides

Overrides are merged one after the other, into a graph that changes on the way.  What comes of it can
be said without the way: names and kinds stay, and they decide which overrides apply.

## What is here

* `NamedType.overridden` — a type with the source that a list of overrides gives it, which is that of
  the last override of it.
* `Override.Fits`, `Override.Refused` — whether an override applies to a graph, and why not.  The
  answer of `refusal?` is this one (`refusal?_eq_none_iff`, `refusal?_eq_some_iff`).
* `Override.mergeOne_eq`, `Override.foldl_mergeOne_eq` — one step and a run of them: every type is
  overridden, and the report grows by what fits and what does not.
* `Override.merge_overrides_types` — the result of a merge, and that merging again changes nothing.

All of this is about graphs with distinct names, as calls make them.
-/

set_option autoImplicit false

namespace QueryBuilder
namespace Schema

/-! ## What overrides should do -/

/-- The type is a scalar that may get a source: its meaning is not fixed. -/
def NamedType.IsCustomScalar (t : NamedType) : Prop :=
  t.kind = .scalar ∧ t.name ∉ builtinScalars

instance (t : NamedType) : Decidable t.IsCustomScalar :=
  inferInstanceAs (Decidable (_ ∧ _))

/-- The source in the last override of a scalar. -/
def lastSource? (overrides : List Override) (scalar : String) : Option ScalarSource :=
  (overrides.findRev? (·.scalar == scalar)).map (·.source)

/-- The type with the source that overrides give it.  Without one it keeps its own. -/
def NamedType.overridden (overrides : List Override) (t : NamedType) : NamedType :=
  if t.IsCustomScalar then
    { t with body := .scalar ((lastSource? overrides t.name).or t.scalarSource?) }
  else t

namespace Override

/-- The override is for a custom scalar of the graph. -/
def Fits (g : TypeGraph) (o : Override) : Prop :=
  ∃ t ∈ g.types, t.name = o.scalar ∧ t.IsCustomScalar

instance (g : TypeGraph) (o : Override) : Decidable (o.Fits g) :=
  inferInstanceAs (Decidable (∃ t ∈ g.types, _))

/-- The override is for no custom scalar of the graph, with a reason. -/
inductive Refused (g : TypeGraph) (o : Override) : SkipReason → Prop where
  | unknownType (h : ∀ t ∈ g.types, t.name ≠ o.scalar) : Refused g o .unknownType
  | builtinScalar {t : NamedType} (ht : t ∈ g.types) (hname : t.name = o.scalar)
      (hbuiltin : o.scalar ∈ builtinScalars) : Refused g o .builtinScalar
  | notAScalar {t : NamedType} (ht : t ∈ g.types) (hname : t.name = o.scalar)
      (hbuiltin : o.scalar ∉ builtinScalars) (hkind : t.kind ≠ .scalar) : Refused g o .notAScalar

end Override

/-! ## The last override -/

theorem lastSource?_append (overrides more : List Override) (scalar : String) :
    lastSource? (overrides ++ more) scalar
      = (lastSource? more scalar).or (lastSource? overrides scalar) := by
  simp only [lastSource?, List.findRev?_eq_find?_reverse, List.reverse_append, List.find?_append,
    Option.map_or]

theorem lastSource?_singleton (o : Override) (scalar : String) :
    lastSource? [o] scalar = if o.scalar = scalar then some o.source else none := by
  rw [lastSource?]
  split_ifs with h <;> simp [h]

/-- The source of a scalar is in an override of it that none follows. -/
theorem lastSource?_eq_some_iff {overrides : List Override} {scalar : String}
    {source : ScalarSource} : lastSource? overrides scalar = some source ↔
      ∃ before o after, overrides = before ++ o :: after ∧ o.scalar = scalar ∧ o.source = source
        ∧ ∀ other ∈ after, other.scalar ≠ scalar := by
  rw [lastSource?, List.findRev?_eq_find?_reverse, Option.map_eq_some_iff]
  constructor
  · rintro ⟨o, ho, hsource⟩
    obtain ⟨hscalar, after, before, heq, hafter⟩ := List.find?_eq_some_iff_append.1 ho
    refine ⟨before.reverse, o, after.reverse, ?_, beq_iff_eq.1 hscalar, hsource, ?_⟩
    · rw [List.reverse_eq_iff] at heq
      simpa using heq
    · simpa using hafter
  · rintro ⟨before, o, after, rfl, hscalar, hsource, hafter⟩
    refine ⟨o, List.find?_eq_some_iff_append.2 ⟨beq_iff_eq.2 hscalar, after.reverse, before.reverse,
      by simp, ?_⟩, hsource⟩
    simpa using hafter

theorem lastSource?_isSome_iff {overrides : List Override} {scalar : String} :
    (lastSource? overrides scalar).isSome = true ↔ ∃ o ∈ overrides, o.scalar = scalar := by
  simp [lastSource?, List.find?_isSome]

namespace NamedType

theorem eq_of_kind_eq_scalar {t : NamedType} (h : t.kind = .scalar) :
    { t with body := .scalar t.scalarSource? } = t := by
  obtain ⟨name, description?, body⟩ := t
  cases body with
  | scalar source? => rfl
  | _ => cases h

theorem keepsHeads_overridden (overrides : List Override) : KeepsHeads (overridden overrides) where
  name t := by
    rw [overridden]
    split_ifs <;> rfl
  kind t := by
    rw [overridden]
    split_ifs with h
    · exact h.1.symm
    · rfl

/-- Overrides of other scalars leave a type as it is. -/
theorem overridden_eq_self {overrides : List Override} {t : NamedType}
    (h : t.IsCustomScalar → lastSource? overrides t.name = none) : t.overridden overrides = t := by
  rw [overridden]
  split_ifs with hcustom
  · rw [h hcustom, Option.none_or, eq_of_kind_eq_scalar hcustom.1]
  · rfl

/-- **Overrides in two goes are overrides in one go.** -/
theorem overridden_overridden (overrides more : List Override) (t : NamedType) :
    (t.overridden overrides).overridden more = t.overridden (overrides ++ more) := by
  by_cases hcustom : t.IsCustomScalar
  · have hoverridden : (t.overridden overrides).IsCustomScalar := by
      rw [IsCustomScalar, (keepsHeads_overridden overrides).kind,
        (keepsHeads_overridden overrides).name]
      exact hcustom
    rw [overridden, if_pos hoverridden, overridden, if_pos hcustom, overridden, if_pos hcustom,
      lastSource?_append, Option.or_assoc]
    rfl
  · rw [overridden.eq_def overrides t, if_neg hcustom, overridden, if_neg hcustom, overridden,
      if_neg hcustom]

/-- The same overrides once more change nothing. -/
theorem overridden_append_self (overrides : List Override) (t : NamedType) :
    t.overridden (overrides ++ overrides) = t.overridden overrides := by
  rw [overridden, overridden, lastSource?_append, Option.or_self]

end NamedType

/-! ## Graphs -/

namespace TypeGraph

variable {g : TypeGraph}

theorem names_mapTypes {f : NamedType → NamedType} (hf : NamedType.KeepsHeads f) :
    (g.mapTypes f).types.map (·.name) = g.types.map (·.name) := by
  rw [mapTypes, List.map_map]
  exact List.map_congr_left fun t _ ↦ hf.name t

theorem byName?_mapTypes {f : NamedType → NamedType} (hf : NamedType.KeepsHeads f)
    (name : String) : (g.mapTypes f).byName? name = (g.byName? name).map f := by
  have hlookup : (g.mapTypes f).lookup name = g.lookup name := by
    rw [lookup, mapTypes, List.findIdx?_map, lookup]
    simp only [Function.comp_def, hf.name]
  rw [byName?, byName?, hlookup]
  cases g.lookup name with
  | none => rfl
  | some id => exact g.get?_mapTypes id

theorem exists_lookup_of_mem (hnames : (g.types.map (·.name)).Nodup) {t : NamedType}
    (ht : t ∈ g.types) : ∃ id, g.lookup t.name = some id ∧ g.get? id = some t := by
  obtain ⟨i, hi⟩ := List.mem_iff_getElem?.1 ht
  exact ⟨⟨i⟩, (lookup_eq_some_iff hnames).2 ⟨t, hi, rfl⟩, hi⟩

end TypeGraph

namespace Override

variable {g : TypeGraph} {o : Override}

theorem refusal?_mapTypes {f : NamedType → NamedType} (hf : NamedType.KeepsHeads f)
    (g : TypeGraph) (o : Override) : o.refusal? (g.mapTypes f) = o.refusal? g := by
  rw [refusal?, refusal?, TypeGraph.byName?_mapTypes hf]
  cases g.byName? o.scalar with
  | none => rfl
  | some t => simp only [Option.map_some, hf.kind]

/-! ## Which overrides apply -/

theorem refusal?_of_unknown (h : ∀ t ∈ g.types, t.name ≠ o.scalar) :
    o.refusal? g = some .unknownType := by
  have hlookup : g.lookup o.scalar = none :=
    TypeGraph.lookup_eq_none_iff.2 fun hmem ↦
      let ⟨t, ht, hname⟩ := List.mem_map.1 hmem
      h t ht hname
  rw [refusal?, TypeGraph.byName?, hlookup]
  rfl

/-- Where names are distinct, the type with the name decides. -/
theorem refusal?_of_mem (hnames : (g.types.map (·.name)).Nodup) {t : NamedType} (ht : t ∈ g.types)
    (hname : t.name = o.scalar) : o.refusal? g
      = if o.scalar ∈ builtinScalars then some .builtinScalar
        else if t.kind = .scalar then none else some .notAScalar := by
  obtain ⟨id, hlookup, hget⟩ := TypeGraph.exists_lookup_of_mem hnames ht
  rw [refusal?, TypeGraph.byName?, ← hname, hlookup, Option.bind_some, hget]
  simp only [List.contains_iff_mem]

section

variable (hnames : (g.types.map (·.name)).Nodup)
include hnames

theorem refusal?_eq_none_iff : o.refusal? g = none ↔ o.Fits g := by
  constructor
  · intro h
    by_cases hknown : ∃ t ∈ g.types, t.name = o.scalar
    · obtain ⟨t, ht, hname⟩ := hknown
      rw [refusal?_of_mem hnames ht hname] at h
      split_ifs at h with hbuiltin hkind
      exact ⟨t, ht, hname, hkind, hname ▸ hbuiltin⟩
    · push Not at hknown
      rw [refusal?_of_unknown hknown] at h
      cases h
  · rintro ⟨t, ht, hname, hkind, hbuiltin⟩
    rw [refusal?_of_mem hnames ht hname, if_neg (hname ▸ hbuiltin), if_pos hkind]

theorem refusal?_eq_some_iff {reason : SkipReason} :
    o.refusal? g = some reason ↔ o.Refused g reason := by
  constructor
  · intro h
    by_cases hknown : ∃ t ∈ g.types, t.name = o.scalar
    · obtain ⟨t, ht, hname⟩ := hknown
      rw [refusal?_of_mem hnames ht hname] at h
      split_ifs at h with hbuiltin hkind
      · exact Option.some.inj h ▸ .builtinScalar ht hname hbuiltin
      · exact Option.some.inj h ▸ .notAScalar ht hname hbuiltin hkind
    · push Not at hknown
      rw [refusal?_of_unknown hknown] at h
      exact Option.some.inj h ▸ .unknownType hknown
  · intro h
    cases h with
    | unknownType h => exact refusal?_of_unknown h
    | builtinScalar ht hname hbuiltin => rw [refusal?_of_mem hnames ht hname, if_pos hbuiltin]
    | notAScalar ht hname hbuiltin hkind =>
      rw [refusal?_of_mem hnames ht hname, if_neg hbuiltin, if_neg hkind]

end

/-! ## One override -/

theorem mapTypes_overridden_of_not_fits (h : ¬ o.Fits g) :
    g.mapTypes (·.overridden [o]) = g := by
  have htypes : g.types.map (·.overridden [o]) = g.types.map id :=
    List.map_congr_left fun t ht ↦ NamedType.overridden_eq_self fun hcustom ↦ by
      rw [lastSource?_singleton, if_neg fun hname ↦ h ⟨t, ht, hname.symm, hcustom⟩]
  rw [TypeGraph.mapTypes, htypes, List.map_id]

/-- An override that fits is applied to the one scalar that it names. -/
theorem apply_of_fits (hnames : (g.types.map (·.name)).Nodup) (h : o.Fits g) :
    o.apply g = g.mapTypes (·.overridden [o]) := by
  obtain ⟨t, ht, hname, hcustom⟩ := h
  obtain ⟨id, hlookup, hget⟩ := TypeGraph.exists_lookup_of_mem hnames ht
  rw [hname] at hlookup
  rw [apply, hlookup]
  refine congrArg (TypeGraph.mk · g.roots) (List.ext_getElem? fun i ↦ ?_)
  rw [List.getElem?_modify, List.getElem?_map]
  refine Option.map_congr fun t' ht' ↦ ?_
  by_cases hi : id.index = i
  · rw [TypeGraph.get?, hi, ht'] at hget
    obtain rfl := Option.some.inj hget
    rw [if_pos hi, NamedType.overridden, if_pos hcustom, lastSource?_singleton, if_pos hname.symm]
    rfl
  · -- No other type has the name.
    have hother : o.scalar ≠ t'.name := by
      intro hname'
      have hlookup' : g.lookup o.scalar = some ⟨i⟩ :=
        (TypeGraph.lookup_eq_some_iff hnames).2 ⟨t', ht', hname'.symm⟩
      rw [hlookup] at hlookup'
      exact hi (congrArg TypeId.index (Option.some.inj hlookup'))
    rw [if_neg hi]
    refine (NamedType.overridden_eq_self fun _ ↦ ?_).symm
    rw [lastSource?_singleton, if_neg hother]

/-- What an override adds to the report when it is merged into a graph. -/
def record (g : TypeGraph) (report : MergeReport) (o : Override) : MergeReport :=
  match o.refusal? g with
  | some reason => { report with skipped := report.skipped ++ [(o.scalar, reason)] }
  | none =>
    { report with applied :=
      if report.applied.contains o.scalar then report.applied else report.applied ++ [o.scalar] }

theorem record_mapTypes {f : NamedType → NamedType} (hf : NamedType.KeepsHeads f)
    (g : TypeGraph) : record (g.mapTypes f) = record g := by
  funext report o
  rw [record, record, refusal?_mapTypes hf]

/-- **One override** goes to the scalar it names, if it fits, and into the report. -/
theorem mergeOne_eq (hnames : (g.types.map (·.name)).Nodup) (report : MergeReport) (o : Override) :
    mergeOne (g, report) o = (g.mapTypes (·.overridden [o]), record g report o) := by
  rw [mergeOne, record]
  cases hrefusal : o.refusal? g with
  | none => rw [← apply_of_fits hnames ((refusal?_eq_none_iff hnames).1 hrefusal)]
  | some reason =>
    have hunfit : ¬ o.Fits g := by
      rw [← refusal?_eq_none_iff hnames, hrefusal]
      exact Option.some_ne_none reason
    rw [mapTypes_overridden_of_not_fits hunfit]

/-! ## All overrides -/

theorem mapTypes_overridden_overridden (overrides more : List Override) (g : TypeGraph) :
    (g.mapTypes (·.overridden overrides)).mapTypes (·.overridden more)
      = g.mapTypes (·.overridden (overrides ++ more)) := by
  rw [TypeGraph.mapTypes, TypeGraph.mapTypes, TypeGraph.mapTypes, List.map_map]
  refine congrArg (TypeGraph.mk · g.roots) (List.map_congr_left fun t _ ↦ ?_)
  exact t.overridden_overridden overrides more

/-- **A run of overrides** goes to all scalars at once.  The report is made for the first graph. -/
theorem foldl_mergeOne_eq (hnames : (g.types.map (·.name)).Nodup) (report : MergeReport)
    (overrides : List Override) : overrides.foldl mergeOne (g, report)
      = (g.mapTypes (·.overridden overrides), overrides.foldl (record g) report) := by
  induction overrides generalizing g report with
  | nil =>
    have hnone : g.types.map (·.overridden []) = g.types.map id :=
      List.map_congr_left fun t _ ↦ NamedType.overridden_eq_self fun _ ↦ rfl
    rw [List.foldl_nil, List.foldl_nil, TypeGraph.mapTypes, hnone, List.map_id]
  | cons o overrides ih =>
    have hheads := NamedType.keepsHeads_overridden [o]
    have hnames' : ((g.mapTypes (·.overridden [o])).types.map (·.name)).Nodup := by
      rw [TypeGraph.names_mapTypes hheads]
      exact hnames
    rw [List.foldl_cons, mergeOne_eq hnames, ih hnames', mapTypes_overridden_overridden,
      record_mapTypes hheads, List.foldl_cons]
    rfl

/-- The report names the overrides that are refused, one by one. -/
theorem skipped_foldl_record (g : TypeGraph) (report : MergeReport) (overrides : List Override) :
    (overrides.foldl (record g) report).skipped = report.skipped
      ++ overrides.filterMap fun o ↦ (o.refusal? g).map fun reason ↦ (o.scalar, reason) := by
  induction overrides generalizing report with
  | nil => rw [List.foldl_nil, List.filterMap_nil, List.append_nil]
  | cons o overrides ih =>
    rw [List.foldl_cons, ih, record, List.filterMap_cons]
    cases o.refusal? g with
    | none => rfl
    | some reason => simp

/-- The report names the others too, each scalar once. -/
theorem applied_foldl_record (hnames : (g.types.map (·.name)).Nodup) (report : MergeReport)
    (overrides : List Override) : (overrides.foldl (record g) report).applied
      = ((overrides.filter (·.Fits g)).map (·.scalar)).foldl
          (fun seen name ↦ if seen.contains name then seen else seen ++ [name])
          report.applied := by
  induction overrides generalizing report with
  | nil => rfl
  | cons o overrides ih =>
    rw [List.foldl_cons, ih, record]
    cases hrefusal : o.refusal? g with
    | none =>
      have hfits := (refusal?_eq_none_iff hnames).1 hrefusal
      rw [List.filter_cons_of_pos (by simpa using hfits)]
      rfl
    | some reason =>
      have hunfit : ¬ o.Fits g := by
        rw [← refusal?_eq_none_iff hnames, hrefusal]
        exact Option.some_ne_none reason
      rw [List.filter_cons_of_neg (by simpa using hunfit)]

/-- What a merge makes of a graph, and what it reports. -/
structure Merges (overrides : List Override) (g merged : TypeGraph) (report : MergeReport) :
    Prop where
  /-- Every custom scalar has the source of its last override, if there is one, and all else is as
  it was. -/
  graph : merged = g.mapTypes (·.overridden overrides)
  /-- The report has the scalars of the overrides that fit, once each and in order. -/
  applied : IsDistinct (· == ·) ((overrides.filter (·.Fits g)).map (·.scalar)) report.applied
  /-- These are the custom scalars for which there is an override. -/
  mem_applied : ∀ name, name ∈ report.applied ↔
    ∃ t ∈ g.types, t.name = name ∧ t.IsCustomScalar ∧ (lastSource? overrides name).isSome
  /-- It has all other overrides, one by one and in order, with a reason that holds of the graph. -/
  skipped : List.Forall₂ (fun o entry ↦ entry.1 = o.scalar ∧ o.Refused g entry.2)
    (overrides.filter (¬ ·.Fits g)) report.skipped

theorem merge_eq (hnames : (g.types.map (·.name)).Nodup) (overrides : List Override) :
    merge overrides g
      = (g.mapTypes (·.overridden overrides), overrides.foldl (record g) ⟨[], []⟩) :=
  foldl_mergeOne_eq hnames _ overrides

theorem isDistinct_applied (hnames : (g.types.map (·.name)).Nodup) (overrides : List Override) :
    IsDistinct (· == ·) ((overrides.filter (·.Fits g)).map (·.scalar))
      (merge overrides g).2.applied := by
  rw [merge_eq hnames, applied_foldl_record hnames]
  exact Code.Aliases.isDistinct_distinct _

theorem mem_applied_iff (hnames : (g.types.map (·.name)).Nodup) (overrides : List Override)
    (name : String) : name ∈ (merge overrides g).2.applied ↔
      ∃ t ∈ g.types, t.name = name ∧ t.IsCustomScalar ∧ (lastSource? overrides name).isSome := by
  have hdistinct := isDistinct_applied hnames overrides
  have hmem : name ∈ (merge overrides g).2.applied ↔
      ∃ o ∈ overrides, o.Fits g ∧ o.scalar = name := by
    have hsame : name ∈ (merge overrides g).2.applied ↔
        name ∈ (overrides.filter (·.Fits g)).map (·.scalar) := by
      refine ⟨fun h ↦ hdistinct.subset h, fun h ↦ ?_⟩
      obtain ⟨b, hb, heq⟩ := hdistinct.covers name h
      exact beq_iff_eq.1 heq ▸ hb
    simp [hsame, and_assoc]
  rw [hmem]
  simp only [lastSource?_isSome_iff]
  constructor
  · rintro ⟨o, ho, ⟨t, ht, hname, hcustom⟩, rfl⟩
    exact ⟨t, ht, hname, hcustom, o, ho, rfl⟩
  · rintro ⟨t, ht, rfl, hcustom, o, ho, hscalar⟩
    exact ⟨o, ho, ⟨t, ht, hscalar.symm, hcustom⟩, hscalar⟩

theorem forall₂_skipped (hnames : (g.types.map (·.name)).Nodup) (overrides : List Override) :
    List.Forall₂ (fun o entry ↦ entry.1 = o.scalar ∧ o.Refused g entry.2)
      (overrides.filter (¬ ·.Fits g)) (merge overrides g).2.skipped := by
  rw [merge_eq hnames, skipped_foldl_record, List.nil_append]
  refine (forall₂_filterMap fun o _ ↦ ?_).imp fun o entry hentry ↦ ?_
  · rw [Option.isSome_map, Bool.eq_iff_iff, decide_eq_true_eq, ← refusal?_eq_none_iff hnames,
      Option.isSome_iff_ne_none]
  · obtain ⟨reason, hreason, rfl⟩ := Option.map_eq_some_iff.1 hentry
    exact ⟨rfl, (refusal?_eq_some_iff hnames).1 hreason⟩

/-- The same overrides once more change neither the graph nor the report. -/
theorem merge_merge_self (hnames : (g.types.map (·.name)).Nodup) (overrides : List Override) :
    merge overrides (merge overrides g).1 = merge overrides g := by
  have hheads := NamedType.keepsHeads_overridden overrides
  have hnames' : ((g.mapTypes (·.overridden overrides)).types.map (·.name)).Nodup := by
    rw [TypeGraph.names_mapTypes hheads]
    exact hnames
  have hself : NamedType.overridden (overrides ++ overrides) = NamedType.overridden overrides :=
    funext (NamedType.overridden_append_self overrides)
  rw [merge_eq hnames, merge_eq hnames', mapTypes_overridden_overridden, record_mapTypes hheads,
    hself]

/-- **A merge gives each custom scalar the source of its last override, and reports on all
overrides.**  No other part of the graph changes.  Merging the same overrides again changes neither
the graph nor the report, and overrides in two goes leave the graph that they leave in one go. -/
theorem merge_overrides_types (hnames : (g.types.map (·.name)).Nodup)
    (overrides : List Override) :
    Merges overrides g (merge overrides g).1 (merge overrides g).2
      ∧ merge overrides (merge overrides g).1 = merge overrides g
      ∧ ∀ more, (merge (overrides ++ more) g).1 = (merge more (merge overrides g).1).1 := by
  refine ⟨?_, merge_merge_self hnames overrides, fun more ↦ ?_⟩
  · exact {
      graph := congrArg Prod.fst (merge_eq hnames overrides)
      applied := isDistinct_applied hnames overrides
      mem_applied := mem_applied_iff hnames overrides
      skipped := forall₂_skipped hnames overrides }
  · have hnames' : ((g.mapTypes (·.overridden overrides)).types.map (·.name)).Nodup := by
      rw [TypeGraph.names_mapTypes (NamedType.keepsHeads_overridden overrides)]
      exact hnames
    rw [merge_eq hnames, merge_eq hnames, merge_eq hnames', mapTypes_overridden_overridden]

/-- Two custom scalars, of which one has a source, between types that may have none. -/
def clockGraph : TypeGraph where
  types := [
    ⟨"ID", none, .scalar none⟩,
    ⟨"Date", some "A day.", .scalar (some (.inline "pub type Date = u32;"))⟩,
    ⟨"Clock", none, .object [⟨"now", none, .nonNull (.named ⟨3⟩), [], none⟩] []⟩,
    ⟨"Time", none, .scalar none⟩,
    ⟨"Float", none, .enum []⟩]
  roots := ⟨some ⟨2⟩, none, none⟩

/-- Overrides for all of them and for another type. -/
def clockOverrides : List Override := [
  ⟨"Zone", .file ⟨"zone.rs"⟩⟩,
  ⟨"Time", .file ⟨"time.rs"⟩⟩,
  ⟨"Clock", .file ⟨"clock.rs"⟩⟩,
  ⟨"Float", .inline "pub type Float = f32;"⟩,
  ⟨"Time", .inline "pub type Time = u64;"⟩,
  ⟨"Zone", .inline "pub type Zone = u8;"⟩,
  ⟨"ID", .inline "pub type ID = u64;"⟩]

theorem merge_overrides_types_clock :
    (clockGraph.types.map (·.name)).Nodup
      ∧ (merge clockOverrides clockGraph).1.types.map (·.scalarSource?)
        = [none, some (.inline "pub type Date = u32;"), none, some (.inline "pub type Time = u64;"),
          none]
      ∧ (merge clockOverrides clockGraph).2 = ⟨["Time"], [("Zone", .unknownType),
        ("Clock", .notAScalar), ("Float", .builtinScalar), ("Zone", .unknownType),
        ("ID", .builtinScalar)]⟩
      ∧ Merges clockOverrides clockGraph (merge clockOverrides clockGraph).1
        (merge clockOverrides clockGraph).2
      ∧ merge clockOverrides (merge clockOverrides clockGraph).1 = merge clockOverrides clockGraph
      ∧ ∀ more, (merge (clockOverrides ++ more) clockGraph).1
        = (merge more (merge clockOverrides clockGraph).1).1 := by
  have hnames : (clockGraph.types.map (·.name)).Nodup := by decide
  exact ⟨hnames, by decide, by decide, merge_overrides_types hnames clockOverrides⟩

end Override

end Schema
end QueryBuilder
