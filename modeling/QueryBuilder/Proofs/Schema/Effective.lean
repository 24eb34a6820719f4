import QueryBuilder.Proofs.Distinct
import QueryBuilder.Proofs.Schema.Merge
import QueryBuilder.Proofs.Schema.Sound

/-!
# Sources in effect

A merged graph has its sources from the overrides that were merged into it, if it had none before.

* `TypeGraph.SourcedBy` — all sources of a graph come from some overrides, which a merge leaves
  behind (`TypeGraph.sourcedBy_merge`).
* `once_effectiveFiles`, `exists_mem_effectiveFiles` — the files in effect are listed once, and none
  that a scalar of the merged graph has is missing.
* `Override.InEffect` — an override that is neither skipped nor replaced by a later one.  The sources
  of a merged graph are those of such overrides (`exists_scalarSource?_merge_iff`).
* `effectiveFiles_listed` — what is listed, in which spelling and in which order.
-/

set_option autoImplicit false

namespace QueryBuilder
namespace Schema

/-- The text of a source, if it is not in a file. -/
def ScalarSource.inline? : ScalarSource → Option String
  | .inline text => some text
  | .file _ => none

/-- The inline texts that the scalars of a graph have, in the order of registration. -/
def TypeGraph.inlineTexts (g : TypeGraph) : List String :=
  g.types.filterMap fun t ↦ t.scalarSource?.bind (·.inline?)

/-! ## The sources of a merged graph -/

/-- Every source in the graph was given by one of the overrides to the scalar that it names, and no
built-in scalar has one. -/
def TypeGraph.SourcedBy (overrides : List Override) (g : TypeGraph) : Prop :=
  ∀ t ∈ g.types, ∀ source, t.scalarSource? = some source →
    t.name ∉ builtinScalars ∧ ∃ o ∈ overrides, o.scalar = t.name ∧ o.source = source

namespace TypeGraph

variable {overrides : List Override} {g : TypeGraph}

theorem SourcedBy.mergeOne (h : g.SourcedBy overrides) (report : MergeReport) {o : Override}
    (ho : o ∈ overrides) : (Override.mergeOne (g, report) o).1.SourcedBy overrides := by
  rcases mergeOne_sets g report o with heq | ⟨id, t, hget, hname, -, hbuiltin, heq⟩
  · rw [heq]
    exact h
  · rw [heq]
    intro t' ht' source hsource
    obtain ⟨i, hi⟩ := List.mem_iff_getElem?.1 ht'
    rw [getElem?_setBody, Option.map_eq_some_iff] at hi
    obtain ⟨before, hbefore, rfl⟩ := hi
    split_ifs at hsource ⊢ with hid
    · -- This is the scalar that gets its source now.
      rw [get?, hid, hbefore] at hget
      obtain rfl := Option.some.inj hget
      obtain rfl := Option.some.inj hsource
      exact ⟨hname ▸ hbuiltin, o, ho, hname.symm, rfl⟩
    · exact h before (List.mem_of_getElem? hbefore) source hsource

/-- **The sources of a merged graph are those of its overrides.** -/
theorem sourcedBy_merge (hg : ∀ t ∈ g.types, t.scalarSource? = none)
    (overrides : List Override) : (Override.merge overrides g).1.SourcedBy overrides := by
  refine List.foldlRecOn
    (motive := fun state : TypeGraph × MergeReport ↦ state.1.SourcedBy overrides)
    overrides Override.mergeOne ?_ fun state hstate o ho ↦ hstate.mergeOne state.2 ho
  intro t ht source hsource
  rw [hg t ht] at hsource
  cases hsource

end TypeGraph

/-! ## Files in effect -/

variable {overrides : List Override} {g : TypeGraph}

/-- The files in effect are listed once, however they are written. -/
theorem once_effectiveFiles (overrides : List Override) (g : TypeGraph) :
    (effectiveFiles overrides g).Pairwise fun p q ↦ p.same q = false :=
  (Path.isDistinct_distinct _).once.filter _

/-- **No file in effect is missing.** -/
theorem exists_mem_effectiveFiles (h : g.SourcedBy overrides) {path : Path}
    (hpath : path ∈ g.filesInEffect) : ∃ p ∈ effectiveFiles overrides g, p.same path = true := by
  obtain ⟨t, ht, hfile⟩ := List.mem_filterMap.1 hpath
  obtain ⟨source, hsource, hfile⟩ := Option.bind_eq_some_iff.1 hfile
  obtain ⟨-, o, ho, -, rfl⟩ := h t ht source hsource
  have hnamed : path ∈ overrides.filterMap (·.source.file?) := List.mem_filterMap.2 ⟨o, ho, hfile⟩
  obtain ⟨p, hp, hsame⟩ := (Path.isDistinct_distinct _).covers path hnamed
  refine ⟨p, List.mem_filter.2 ⟨hp, ?_⟩, hsame⟩
  exact List.any_eq_true.2 ⟨path, hpath, beq_iff_eq.2 (beq_iff_eq.1 hsame).symm⟩

theorem TypeGraph.mem_filesInEffect_iff {path : Path} :
    path ∈ g.filesInEffect ↔ ∃ t ∈ g.types, t.scalarSource? = some (.file path) := by
  have hfile (source : ScalarSource) : source.file? = some path ↔ source = .file path := by
    cases source <;> simp [ScalarSource.file?]
  simp only [filesInEffect, List.mem_filterMap, Option.bind_eq_some_iff, hfile, exists_eq_right]

/-- **A path is listed exactly if a scalar has the file**, however the path is written. -/
theorem exists_mem_effectiveFiles_iff (h : g.SourcedBy overrides) (path : Path) :
    (∃ p ∈ effectiveFiles overrides g, p.same path = true) ↔
      ∃ t ∈ g.types, ∃ q, t.scalarSource? = some (.file q) ∧ q.same path = true := by
  constructor
  · rintro ⟨p, hp, hsame⟩
    obtain ⟨q, hq, hqp⟩ := List.any_eq_true.1 (List.mem_filter.1 hp).2
    obtain ⟨t, ht, hsource⟩ := TypeGraph.mem_filesInEffect_iff.1 hq
    exact ⟨t, ht, q, hsource, q.same_trans p path hqp hsame⟩
  · rintro ⟨t, ht, q, hsource, hsame⟩
    obtain ⟨p, hp, hpq⟩ :=
      exists_mem_effectiveFiles h (TypeGraph.mem_filesInEffect_iff.2 ⟨t, ht, hsource⟩)
    exact ⟨p, hp, p.same_trans q path hpq hsame⟩

/-! ## Overrides in effect -/

/-- The override fits the graph, and none behind it is for the same scalar. -/
def Override.InEffect (overrides : List Override) (g : TypeGraph) (o : Override) : Prop :=
  o.Fits g ∧ ∃ before after, overrides = before ++ o :: after
    ∧ ∀ other ∈ after, other.scalar ≠ o.scalar

/-- A type without a source has the one that the last override gives it. -/
theorem NamedType.scalarSource?_overridden_eq_some_iff {t : NamedType}
    (h : t.scalarSource? = none) {source : ScalarSource} :
    (t.overridden overrides).scalarSource? = some source ↔
      t.IsCustomScalar ∧ lastSource? overrides t.name = some source := by
  rw [overridden, h, Option.or_none]
  split_ifs with hcustom
  · exact (and_iff_right hcustom).symm
  · simp [h, hcustom]

/-- **The sources of a merged graph are those of the overrides in effect.** -/
theorem exists_scalarSource?_merge_iff (overrides : List Override)
    (hnames : (g.types.map (·.name)).Nodup) (hg : ∀ t ∈ g.types, t.scalarSource? = none)
    (source : ScalarSource) :
    (∃ t ∈ (Override.merge overrides g).1.types, t.scalarSource? = some source) ↔
      ∃ o : Override, o.InEffect overrides g ∧ o.source = source := by
  have htypes : (Override.merge overrides g).1.types = g.types.map (·.overridden overrides) := by
    rw [Override.merge_eq hnames]
    rfl
  constructor
  · rintro ⟨t', ht', hsource⟩
    rw [htypes] at ht'
    obtain ⟨t, ht, rfl⟩ := List.mem_map.1 ht'
    obtain ⟨hcustom, hlast⟩ :=
      (NamedType.scalarSource?_overridden_eq_some_iff (hg t ht)).1 hsource
    obtain ⟨before, o, after, heq, hscalar, hsource, hafter⟩ := lastSource?_eq_some_iff.1 hlast
    exact ⟨o, ⟨⟨t, ht, hscalar.symm, hcustom⟩, before, after, heq, hscalar ▸ hafter⟩, hsource⟩
  · rintro ⟨o, ⟨⟨t, ht, hname, hcustom⟩, before, after, heq, hafter⟩, hsource⟩
    have hlast : lastSource? overrides t.name = some source :=
      lastSource?_eq_some_iff.2 ⟨before, o, after, heq, hname.symm, hsource, hname ▸ hafter⟩
    exact ⟨_, htypes ▸ List.mem_map_of_mem ht,
      (NamedType.scalarSource?_overridden_eq_some_iff (hg t ht)).2 ⟨hcustom, hlast⟩⟩

/-! ## What is listed -/

/-- The files that overrides name, one by one. -/
def namedFiles (overrides : List Override) : List Path :=
  overrides.filterMap (·.source.file?)

/-- The files are those in effect in a graph into which overrides have been merged. -/
structure ListsFilesInEffect (overrides : List Override) (g merged : TypeGraph)
    (files : List Path) : Prop where
  /-- A path is listed exactly if a scalar of the merged graph has the file. -/
  scalar_iff : ∀ path, (∃ p ∈ files, p.same path = true) ↔
    ∃ t ∈ merged.types, ∃ q, t.scalarSource? = some (.file q) ∧ q.same path = true
  /-- It is listed exactly if an override names it that is neither skipped nor replaced. -/
  override_iff : ∀ path, (∃ p ∈ files, p.same path = true) ↔
    ∃ o : Override, o.InEffect overrides g ∧ ∃ q, o.source = .file q ∧ q.same path = true
  /-- It is listed once. -/
  once : files.Pairwise fun p q ↦ p.same q = false
  /-- It is spelled as where any override first names it. -/
  first : ∀ p ∈ files, ∃ front back, namedFiles overrides = front ++ p :: back
    ∧ ∀ q ∈ front, q.same p = false
  /-- The order is that of these places. -/
  order : files.Pairwise fun p q ↦
    (namedFiles overrides).findIdx (·.same p) < (namedFiles overrides).findIdx (·.same q)

/-- **Exactly the files in effect are listed**, each once, in the order and the spelling of their
first appearance among all overrides.  What only skipped or replaced overrides name is left out. -/
theorem effectiveFiles_listed (hnames : (g.types.map (·.name)).Nodup)
    (hg : ∀ t ∈ g.types, t.scalarSource? = none) (overrides : List Override) :
    ListsFilesInEffect overrides g (Override.merge overrides g).1
      (effectiveFiles overrides (Override.merge overrides g).1) := by
  have hdistinct : IsDistinct Path.same (namedFiles overrides) (distinctFiles overrides) :=
    Path.isDistinct_distinct _
  have hscalar := exists_mem_effectiveFiles_iff (TypeGraph.sourcedBy_merge hg overrides)
  have hoverride (path : Path) : (∃ t ∈ (Override.merge overrides g).1.types, ∃ q,
      t.scalarSource? = some (.file q) ∧ q.same path = true) ↔
        ∃ o : Override, o.InEffect overrides g ∧ ∃ q, o.source = .file q ∧ q.same path = true := by
    have hsource (q : Path) := exists_scalarSource?_merge_iff overrides hnames hg (.file q)
    constructor
    · rintro ⟨t, ht, q, hfile, hsame⟩
      obtain ⟨o, ho, hfile⟩ := (hsource q).1 ⟨t, ht, hfile⟩
      exact ⟨o, ho, q, hfile, hsame⟩
    · rintro ⟨o, ho, q, hfile, hsame⟩
      obtain ⟨t, ht, hfile⟩ := (hsource q).2 ⟨o, ho, hfile⟩
      exact ⟨t, ht, q, hfile, hsame⟩
  exact {
    scalar_iff := hscalar
    override_iff := fun path ↦ (hscalar path).trans (hoverride path)
    once := once_effectiveFiles overrides _
    first := fun p hp ↦ hdistinct.first p (List.mem_filter.1 hp).1
    order := hdistinct.order.filter _ }

/-- Custom scalars beside a built-in one. -/
def mapGraph : TypeGraph where
  types := ["ID", "Date", "Url", "Json", "Any"].map fun name ↦ ⟨name, none, .scalar none⟩
  roots := ⟨none, none, none⟩

/-- The file for dates is replaced, and then used for another scalar under another spelling.  Two
scalars share a file, and two files are named in vain. -/
def mapOverrides : List Override := [
  ⟨"ID", .file ⟨"id.rs"⟩⟩,
  ⟨"Date", .file ⟨"src//date.rs"⟩⟩,
  ⟨"Url", .file ⟨"old.rs"⟩⟩,
  ⟨"Url", .file ⟨"shared.rs"⟩⟩,
  ⟨"Date", .inline "pub type Date = u32;"⟩,
  ⟨"Any", .file ⟨"shared.rs/"⟩⟩,
  ⟨"Json", .file ⟨"src/./date.rs"⟩⟩,
  ⟨"Missing", .file ⟨"missing.rs"⟩⟩]

theorem effectiveFiles_listed_maps :
    (mapGraph.types.map (·.name)).Nodup
      ∧ (∀ t ∈ mapGraph.types, t.scalarSource? = none)
      ∧ ListsFilesInEffect mapOverrides mapGraph (Override.merge mapOverrides mapGraph).1
        [⟨"src//date.rs"⟩, ⟨"shared.rs"⟩] := by
  have hnames : (mapGraph.types.map (·.name)).Nodup := by decide
  have hg : ∀ t ∈ mapGraph.types, t.scalarSource? = none := by decide
  have hfiles : effectiveFiles mapOverrides (Override.merge mapOverrides mapGraph).1
      = [⟨"src//date.rs"⟩, ⟨"shared.rs"⟩] := by decide +kernel
  exact ⟨hnames, hg, hfiles ▸ effectiveFiles_listed hnames hg mapOverrides⟩

end Schema
end QueryBuilder
