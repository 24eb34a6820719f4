import Mathlib.Data.List.Perm.Subperm
import QueryBuilder.Proofs.Query.Canonical

/-!
# Keys of nested builders

A set that is passed as the nested set of a field has handed out keys.  If the field is new, the
set is taken as it is, and the keys stay valid.  If the field has been selected before, the set is
merged into the one that was selected there, and every field in it is numbered again.  A key can
then go to another field, or to none.

## What is here

* `SelectionSet.Answers`, `SelectionSet.selectedUnder` — what a reader of the response relies on.
* `SelectionSet.KeyKept` — the condition under which a key stays valid: the earlier set selects
  the same occurrence under the same key, or it does not select it and the number of the
  occurrence is the same in both sets.
* `SelectionSet.answers_merge_iff` — the condition is exact for a merge.

The numbers agree if nothing of that name comes before, in either set, or if everything in the
earlier set is also selected by the builder before the occurrence
(`keyAt_append_filter_iff`).
-/

set_option autoImplicit false

namespace QueryBuilder
namespace Query

/-! ## Numbers in a merged set -/

/-- A list that is continued by what another adds to it is as long as the other exactly if the
other contains it. -/
theorem length_append_filter_eq_iff {α : Type} [DecidableEq α] {l m : List α} (hl : l.Nodup)
    (hm : m.Nodup) : (l ++ m.filter (· ∉ l)).length = m.length ↔ l ⊆ m := by
  have hsplit : m.length = (m.filter (· ∈ l)).length + (m.filter (· ∉ l)).length := by
    simpa only [decide_not] using m.length_eq_length_filter_add fun a ↦ decide (a ∈ l)
  have hsub : m.filter (· ∈ l) ⊆ l := fun a ha ↦ by simpa using (List.mem_filter.1 ha).2
  have hsubperm := (hm.filter fun a ↦ decide (a ∈ l)).subperm hsub
  rw [List.length_append]
  constructor
  · intro hlength
    have hperm := hsubperm.perm_of_length_le (by omega)
    exact fun a ha ↦ (List.mem_filter.1 (hperm.mem_iff.2 ha)).1
  · intro hlm
    have hback : l ⊆ m.filter (· ∈ l) :=
      fun a ha ↦ List.mem_filter.2 ⟨hlm ha, decide_eq_true ha⟩
    have := (hl.subperm hback).length_le
    have := hsubperm.length_le
    omega

/-- Behind the entries `before` as behind those that a merge puts there, a name gets the same key
exactly if it does not occur in them or the earlier entries are all among them. -/
theorem keyAt_append_filter_iff {earlier before : List Entry} (hearlier : earlier.Nodup)
    (hbefore : before.Nodup) {name : String} (hname : isAlias name = false) :
    keyAt (earlier ++ before.filter (· ∉ earlier)) name = keyAt before name ↔
      earlier ⊆ before ∨ ∀ e ∈ earlier ++ before, e.names name = false := by
  have hmem : ∀ e, e ∈ earlier ++ before.filter (· ∉ earlier) ↔ e ∈ earlier ++ before := by
    intro e
    by_cases he : e ∈ earlier <;> simp [he]
  by_cases hsome : ∃ e ∈ earlier ++ before, e.names name = true
  · obtain ⟨e, he, hnames⟩ := hsome
    have hnot : ¬ ∀ e ∈ earlier ++ before, e.names name = false :=
      fun hall ↦ absurd hnames (by rw [hall e he]; decide)
    rw [keyAt_of_names ⟨e, (hmem e).2 he, hnames⟩, or_iff_left hnot]
    by_cases hold : ∃ e ∈ before, e.names name = true
    · rw [keyAt_of_names hold, aliasKey_injective.eq_iff]
      exact length_append_filter_eq_iff hearlier hbefore
    · -- The name occurs in the earlier set alone, so its entry there is not in `before`.
      rw [keyAt_of_not_names hold]
      refine ⟨fun h ↦ absurd h (aliasKey_ne hname), fun hsub ↦ absurd ?_ hold⟩
      exact ⟨e, (List.mem_append.1 he).elim (fun h ↦ hsub h) id, hnames⟩
  · -- Both keys are the bare name.
    rw [keyAt_of_not_names fun ⟨e, he, hnames⟩ ↦ hsome ⟨e, (hmem e).1 he, hnames⟩,
      keyAt_of_not_names fun ⟨e, he, hnames⟩ ↦ hsome ⟨e, List.mem_append_right _ he, hnames⟩]
    exact ⟨fun _ ↦ .inr (by simpa using hsome), fun _ ↦ rfl⟩

namespace SelectionSet

/-! ## Heads of a merged set -/

namespace Numbered

variable {set : SelectionSet} (hset : set.Numbered)
include hset

theorem heads_prefix_mergeOne {s : Selection} (hplain : s.head.Plain) :
    set.heads <+: (set.mergeOne s).heads := by
  rw [hset.heads_mergeOne hplain]
  split_ifs
  · exact List.prefix_refl _
  · exact List.prefix_append _ _

theorem heads_prefix_foldl {l : List Selection} (hl : ∀ s ∈ l, s.head.Plain) :
    set.heads <+: (l.foldl SelectionSet.mergeOne set).heads := by
  induction l generalizing set with
  | nil => exact List.prefix_refl _
  | cons s l ih =>
    obtain ⟨hs, hl⟩ := List.forall_mem_cons.1 hl
    exact (hset.heads_prefix_mergeOne hs).trans (ih (hset.mergeOne hs) hl)

/-- A merged set selects first what was there, then what is new. -/
theorem entries_foldl_mergeOne {l : List Selection} (hl : ∀ s ∈ l, s.head.Plain)
    (hnodup : (l.map Selection.entry).Nodup) :
    (l.foldl SelectionSet.mergeOne set).entries
      = set.entries ++ (l.map Selection.entry).filter (· ∉ set.entries) := by
  induction l generalizing set with
  | nil => rw [List.foldl_nil, List.map_nil, List.filter_nil, List.append_nil]
  | cons s l ih =>
    rw [List.map_cons, List.nodup_cons] at hnodup
    obtain ⟨hs, hl⟩ := List.forall_mem_cons.1 hl
    rw [List.foldl_cons, ih (hset.mergeOne hs) hl hnodup.2, hset.entries_mergeOne hs,
      List.map_cons]
    by_cases hmem : s.entry ∈ set.entries
    · rw [if_pos hmem, List.filter_cons_of_neg (by simpa using hmem)]
    · have hfilter : (l.map Selection.entry).filter (· ∉ set.entries ++ [s.entry])
          = (l.map Selection.entry).filter (· ∉ set.entries) := by
        refine List.filter_congr fun e he ↦ ?_
        have hne : e ≠ s.entry := ne_of_mem_of_not_mem he hnodup.1
        simp [hne]
      rw [if_neg hmem, List.filter_cons_of_pos (by simpa using hmem), hfilter, List.append_assoc,
        List.singleton_append]

end Numbered

theorem heads_prefix_apply {set : SelectionSet} (hset : set.Numbered) {step : Step}
    (hstep : step.Plain) : set.heads <+: (set.apply step).heads := by
  cases step with
  | field name arguments nested => exact hset.heads_prefix_mergeOne hstep.1
  | typename => exact hset.heads_prefix_mergeOne isAlias_typenameField
  | fragment typeCondition nested => exact hset.heads_prefix_mergeOne trivial
  | merge other =>
    rw [apply, merge_eq_foldl]
    exact hset.heads_prefix_foldl fun s hs ↦ (Plain.canonical hstep).plain hs

/-- No later call changes the heads that are there. -/
theorem heads_prefix_run {set : SelectionSet} (hset : set.Plain) {steps : List Step}
    (hsteps : ∀ step ∈ steps, step.Plain) : set.heads <+: (set.run steps).heads := by
  induction steps generalizing set with
  | nil => exact List.prefix_refl _
  | cons step steps ih =>
    obtain ⟨hstep, hsteps⟩ := List.forall_mem_cons.1 hsteps
    exact (heads_prefix_apply hset.canonical.numbered hstep).trans
      (ih (Built.apply hset hstep) hsteps)

/-! ## The field that a call selects -/

/-- A field of the set answers under a key, and it is the given field with the given arguments. -/
def Answers (set : SelectionSet) (key name : String) (arguments : List Argument) : Prop :=
  ∃ alias? arguments' nested, .field name alias? arguments' nested ∈ set.selections
    ∧ alias?.getD name = key ∧ renderArguments arguments' = renderArguments arguments

/-- What is selected below the field that answers under a key. -/
def selectedUnder (set : SelectionSet) (key : String) : Option SelectionSet :=
  (set.selections.find? (·.answersUnder key)).bind Selection.below?

theorem answers_iff {set : SelectionSet} {key name : String} {arguments : List Argument} :
    set.Answers key name arguments ↔ ∃ alias?,
      .field name alias? (renderArguments arguments) ∈ set.heads ∧ alias?.getD name = key := by
  constructor
  · rintro ⟨alias?, arguments', nested, hmem, hkey, hrender⟩
    exact ⟨alias?, List.mem_map.2 ⟨_, hmem, by rw [Selection.head, hrender]⟩, hkey⟩
  · rintro ⟨alias?, hmem, hkey⟩
    obtain ⟨s, hs, hhead⟩ := List.mem_map.1 hmem
    cases s with
    | field name' alias?' arguments' nested =>
      obtain ⟨rfl, rfl, hrender⟩ := Head.field.inj hhead
      exact ⟨alias?', arguments', nested, hs, hkey, hrender⟩
    | fragment => cases hhead

namespace Numbered

variable {set : SelectionSet} (hset : set.Numbered) {key name : String} {arguments : List Argument}
include hset

/-- Only the field of the same entry can answer for an occurrence. -/
theorem answers_iff_of_mem {alias? : Option String} {signature : String}
    (hmem : .field name alias? signature ∈ set.heads)
    (hentry : Entry.ofField name signature = .occurrence name arguments) :
    set.Answers key name arguments ↔
      signature = renderArguments arguments ∧ alias?.getD name = key := by
  rw [answers_iff]
  constructor
  · rintro ⟨alias?', hmem', hkey⟩
    obtain ⟨-, rfl, rfl⟩ := Head.field.inj (hset.heads.eq_of_entry hmem hmem' hentry)
    exact ⟨rfl, hkey⟩
  · rintro ⟨rfl, hkey⟩
    exact ⟨alias?, hmem, hkey⟩

/-- The field that answers under a key is the one whose key it is. -/
theorem selectedUnder_eq {t : Selection} (ht : t ∈ set.selections)
    (hkey : t.responseKey? = some key) : set.selectedUnder key = t.below? := by
  have hself : t.answersUnder key = true := Selection.answersUnder_iff.2 hkey
  cases hfind : set.selections.find? (·.answersUnder key) with
  | none => exact absurd hself (List.find?_eq_none.1 hfind t ht)
  | some b =>
    have hb := List.mem_of_find?_eq_some hfind
    have hentry := (hset.answersUnder_iff ht hkey hb).1 (List.find?_some hfind)
    rw [selectedUnder, hfind, Option.bind_some, List.inj_on_of_nodup_map hset.nodup hb ht hentry]

/-- The returned key is that of the selected entry. -/
theorem exists_selection_addField (hname : isAlias name = false) (arguments : List Argument)
    (nested : Option SelectionSet) :
    ∃ t ∈ (set.addField name arguments nested).2.selections, t.entry = .occurrence name arguments
      ∧ t.responseKey? = some (set.addField name arguments nested).1
      ∧ t.below?
        = mergeBelow (set.selectedUnder (set.addField name arguments nested).1) nested := by
  let s : Selection := .field name none arguments nested
  have hs : s.head.Plain := hname
  rw [addField]
  by_cases hmem : s.entry ∈ set.entries
  · obtain ⟨t, ht, hentry⟩ := List.mem_map.1 hmem
    obtain ⟨key, hkey, hresolve⟩ := hset.resolve_of_mem ht hentry
    rw [hset.mergeOne_of_mem hmem, hresolve, hset.selectedUnder_eq ht hkey]
    refine ⟨t.absorb s, List.mem_map.2 ⟨t, ht, if_pos hentry⟩, ?_, ?_, ?_⟩
    · rw [Selection.entry_absorb]
      exact hentry
    · rw [← Selection.responseKey?_head, Selection.head_absorb, Selection.responseKey?_head, hkey]
    · exact Selection.below?_absorb hentry
  · have hnone : set.selectedUnder (keyAt set.entries name) = none := by
      have hfree := hset.keyAt_not_mem hname hmem
      have hfind : set.selections.find? (·.answersUnder (keyAt set.entries name)) = none := by
        refine List.find?_eq_none.2 fun t ht hkey ↦ hfree ?_
        exact mem_responseKeys.2 ⟨t, ht, Selection.answersUnder_iff.1 hkey⟩
      rw [selectedUnder, hfind, Option.bind_none]
    rw [hset.mergeOne_of_not_mem hs hmem, hset.resolve_of_not_mem hmem, hnone]
    refine ⟨s.number set.entries, List.mem_append_right _ (List.mem_singleton_self _), ?_, rfl, ?_⟩
    · exact Selection.entry_number _ s
    · cases nested <;> rfl

end Numbered

/-! ## Keys that stay valid -/

/-- The entries that are selected before an entry. -/
def entriesBefore (set : SelectionSet) (e : Entry) : List Entry :=
  set.entries.takeWhile (· ≠ e)

/-- A key that a builder has returned for an occurrence stays valid when the builder is merged
into what was selected earlier, if anything was. -/
def KeyKept (earlier? : Option SelectionSet) (builder : SelectionSet) (key name : String)
    (arguments : List Argument) : Prop :=
  match earlier? with
  | none => builder.Answers key name arguments
  | some earlier =>
    if .occurrence name arguments ∈ earlier.entries then earlier.Answers key name arguments
    else builder.Answers key name arguments
      ∧ (earlier.entries ⊆ builder.entriesBefore (.occurrence name arguments)
        ∨ ∀ e ∈ earlier.entries ++ builder.entriesBefore (.occurrence name arguments),
          e.names name = false)

/-- The head of an occurrence is a field of its name. -/
theorem exists_of_entry_eq_occurrence {s : Selection} {name : String} {arguments : List Argument}
    (hentry : s.entry = .occurrence name arguments) :
    ∃ alias? signature, s.head = .field name alias? signature
      ∧ Entry.ofField name signature = .occurrence name arguments := by
  cases s with
  | field name' alias? arguments' nested =>
    obtain ⟨rfl, -⟩ := Entry.ofField_eq_iff.1 hentry
    exact ⟨alias?, _, rfl, hentry⟩
  | fragment condition nested =>
    have hne : (Selection.field name none arguments none).entry
        ≠ (Selection.fragment condition nested).entry := Selection.entry_field_ne_fragment
    exact absurd hentry.symm hne

theorem Numbered.entriesBefore_eq {set : SelectionSet} (hset : set.Numbered) {s : Selection}
    {front back : List Selection} (hsplit : set.selections = front ++ s :: back) :
    set.entriesBefore s.entry = front.map Selection.entry := by
  have hfront : ∀ e ∈ front.map Selection.entry, decide (e ≠ s.entry) = true := by
    intro e he
    obtain ⟨r, hr, rfl⟩ := List.mem_map.1 he
    exact decide_eq_true ((hset.entry_ne_of_split hsplit).1 r hr)
  rw [entriesBefore, entries, hsplit, List.map_append, List.map_cons,
    List.takeWhile_append_of_pos hfront, List.takeWhile_cons_of_neg (by simp), List.append_nil]

theorem Numbered.nodup_entriesBefore {set : SelectionSet} (hset : set.Numbered) (e : Entry) :
    (set.entriesBefore e).Nodup :=
  hset.nodup.sublist (List.takeWhile_sublist _)

theorem Numbered.number_entriesBefore {set : SelectionSet} (hset : set.Numbered) {s : Selection}
    (hs : s ∈ set.selections) : s.head.number (set.entriesBefore s.entry) = s.head := by
  obtain ⟨front, back, hsplit⟩ := List.append_of_mem hs
  have hheads := hset.heads
  rw [SelectionSet.heads, hsplit, List.map_append, List.map_cons] at hheads
  rw [hset.entriesBefore_eq hsplit]
  have hnumber := hheads.number_eq_self
  rwa [List.map_map] at hnumber

/-- An entry that only the added set selects is numbered anew, behind what is selected before it
in either set. -/
theorem head_mem_heads_merge {earlier builder : SelectionSet} (hearlier : earlier.Canonical)
    (hbuilder : builder.Canonical) {s : Selection} (hs : s ∈ builder.selections)
    (hnew : s.entry ∉ earlier.entries) :
    s.head.number (earlier.entries
        ++ (builder.entriesBefore s.entry).filter (· ∉ earlier.entries))
      ∈ (earlier.merge builder).heads := by
  obtain ⟨front, back, hsplit⟩ := List.append_of_mem hs
  have hplain : ∀ r ∈ front ++ s :: back, r.head.Plain := fun r hr ↦ hbuilder.plain (hsplit ▸ hr)
  have hsplain := hbuilder.plain hs
  have hfront : ∀ r ∈ front, r.head.Plain := fun r hr ↦ hplain r (List.mem_append_left _ hr)
  have hback : ∀ r ∈ back, r.head.Plain :=
    fun r hr ↦ hplain r (List.mem_append_right _ (List.mem_cons_of_mem s hr))
  have hx := hearlier.numbered.foldl_mergeOne hfront
  have hbefore := hbuilder.numbered.entriesBefore_eq hsplit
  have hentries := hearlier.numbered.entries_foldl_mergeOne hfront
    (hbefore ▸ hbuilder.numbered.nodup_entriesBefore s.entry)
  have hfresh : s.entry ∉ (front.foldl mergeOne earlier).entries := by
    rw [hentries, List.mem_append, not_or]
    refine ⟨hnew, fun h ↦ ?_⟩
    obtain ⟨r, hr, hentry⟩ := List.mem_map.1 (List.mem_filter.1 h).1
    exact (hbuilder.numbered.entry_ne_of_split hsplit).1 r hr hentry
  have hinitial := (hx.mergeOne hsplain).heads_prefix_foldl hback
  rw [merge_eq_foldl, hsplit, List.foldl_append, List.foldl_cons]
  refine hinitial.subset ?_
  rw [hx.heads_mergeOne hsplain, if_neg hfresh, hentries, ← hbefore]
  exact List.mem_append_right _ (List.mem_singleton_self _)

/-- **A merge keeps the key of an occurrence exactly under the condition `KeyKept`.** -/
theorem answers_merge_iff {earlier builder : SelectionSet} (hearlier : earlier.Canonical)
    (hbuilder : builder.Canonical) {key name : String} (hname : isAlias name = false)
    {arguments : List Argument} {s : Selection} (hs : s ∈ builder.selections)
    (hentry : s.entry = .occurrence name arguments) (hkey : s.responseKey? = some key) :
    (earlier.merge builder).Answers key name arguments ↔
      KeyKept (some earlier) builder key name arguments := by
  have hmerged := (hearlier.merge hbuilder).numbered
  obtain ⟨alias?, signature, hhead, hsignature⟩ := exists_of_entry_eq_occurrence hentry
  rw [KeyKept]
  split_ifs with hmem
  · -- The earlier field of this entry stays where it is.
    obtain ⟨t, ht, ht'⟩ := List.mem_map.1 hmem
    obtain ⟨alias?', signature', hhead', hsignature'⟩ := exists_of_entry_eq_occurrence ht'
    have hold : .field name alias?' signature' ∈ earlier.heads := hhead' ▸ List.mem_map_of_mem ht
    have hinitial : earlier.heads <+: (earlier.merge builder).heads := by
      rw [merge_eq_foldl]
      exact hearlier.numbered.heads_prefix_foldl fun r hr ↦ hbuilder.plain hr
    rw [hmerged.answers_iff_of_mem (hinitial.subset hold) hsignature',
      hearlier.numbered.answers_iff_of_mem hold hsignature']
  · have hnew : s.entry ∉ earlier.entries := hentry ▸ hmem
    have hmoved := head_mem_heads_merge hearlier hbuilder hs hnew
    have hnumber := hbuilder.numbered.number_entriesBefore hs
    rw [hentry, hhead, Head.number] at hmoved hnumber
    have hown : .field name alias? signature ∈ builder.heads := hhead ▸ List.mem_map_of_mem hs
    have halias : aliasAt (builder.entriesBefore (.occurrence name arguments)) name = alias? :=
      (Head.field.inj hnumber).2.1
    have hkey : keyAt (builder.entriesBefore (.occurrence name arguments)) name = key := by
      rw [← Selection.responseKey?_head, hhead] at hkey
      rw [keyAt, halias]
      exact Option.some.inj hkey
    rw [hmerged.answers_iff_of_mem hmoved hsignature,
      hbuilder.numbered.answers_iff_of_mem hown hsignature, ← halias, ← keyAt, ← keyAt, hkey,
      and_iff_left rfl, ← hkey,
      keyAt_append_filter_iff hearlier.numbered.nodup (hbuilder.numbered.nodup_entriesBefore _)
        hname]

theorem Canonical.of_selectedUnder {set : SelectionSet} (hset : set.Canonical) {key : String}
    {below : SelectionSet} (h : set.selectedUnder key = some below) : below.Canonical := by
  obtain ⟨t, ht, hbelow⟩ := Option.bind_eq_some_iff.1 h
  exact hset.of_below? (List.mem_of_find?_eq_some ht) hbelow

/-- **When the key of a nested builder stays valid.**  The builder is passed to a field of the
parent after any further calls.  What is then selected below the field answers under the key that
the builder has returned exactly if `KeyKept` holds of what was selected there earlier.  The
builder itself answers under the key, except for the arguments of `__typename`. -/
theorem nested_key_answers_iff {parent inner : SelectionSet} (hparent : parent.Plain)
    (hinner : inner.Plain) {owner name : String} (howner : isAlias owner = false)
    (hname : isAlias name = false) {ownerArguments arguments : List Argument}
    {nested : Option SelectionSet} (hnested : ∀ below ∈ nested, below.Plain) {later : List Step}
    (hlater : ∀ step ∈ later, step.Plain) {key ownerKey : String}
    {start builder outer : SelectionSet}
    (hcall : inner.addField name arguments nested = (key, start))
    (hbuilder : start.run later = builder)
    (houter : parent.addField owner ownerArguments (some builder) = (ownerKey, outer)) :
    (∃ merged, outer.selectedUnder ownerKey = some merged
        ∧ (merged.Answers key name arguments ↔
          KeyKept (parent.selectedUnder ownerKey) builder key name arguments))
      ∧ (name ≠ typenameField → builder.Answers key name arguments) := by
  have hstart : (inner.addField name arguments nested).2.Plain := .field hinner hname hnested
  obtain ⟨t, ht, hentry, hkey, -⟩ :=
    hinner.canonical.numbered.exists_selection_addField hname arguments nested
  rw [hcall] at hstart ht hkey
  have hbuilt : builder.Plain := hbuilder ▸ Built.run hstart hlater
  -- The field is still there when the builder is passed on.
  obtain ⟨s, hs, hhead⟩ : ∃ s ∈ builder.selections, s.head = t.head :=
    List.mem_map.1 (hbuilder ▸ (heads_prefix_run hstart hlater).subset (List.mem_map_of_mem ht))
  rw [Selection.entry, ← hhead, ← Selection.entry] at hentry
  rw [← Selection.responseKey?_head, ← hhead, Selection.responseKey?_head] at hkey
  refine ⟨?_, fun htypename ↦ ?_⟩
  · have hparent' : (parent.addField owner ownerArguments (some builder)).2.Plain :=
      .field hparent howner fun below hbelow ↦ Option.some.inj hbelow ▸ hbuilt
    obtain ⟨u, hu, -, hukey, hbelow⟩ := hparent.canonical.numbered.exists_selection_addField
      howner ownerArguments (some builder)
    rw [houter] at hparent' hu hukey hbelow
    rw [hparent'.canonical.numbered.selectedUnder_eq hu hukey, hbelow]
    cases hearlier : parent.selectedUnder ownerKey with
    | none => exact ⟨builder, rfl, Iff.rfl⟩
    | some earlier =>
      exact ⟨earlier.merge builder, rfl, answers_merge_iff
        (hparent.canonical.of_selectedUnder hearlier) hbuilt.canonical hname hs hentry hkey⟩
  · obtain ⟨alias?, signature, hshead, hsignature⟩ := exists_of_entry_eq_occurrence hentry
    have hown : .field name alias? signature ∈ builder.heads := hshead ▸ List.mem_map_of_mem hs
    rw [← Selection.responseKey?_head, hshead] at hkey
    rw [hbuilt.canonical.numbered.answers_iff_of_mem hown hsignature]
    exact ⟨(Entry.ofField_eq_iff.1 hsignature).2.resolve_left htypename, Option.some.inj hkey⟩

/-! ## A key that stays valid, and one that does not -/

/-- A set that selects the identifier. -/
def onlyId : SelectionSet :=
  empty.run [.field "id" [] none]

/-- A set that selects the first post. -/
def onePost : SelectionSet :=
  empty.run [.field "posts" [⟨"first", .int 1⟩] none]

/-- The call that selects another number of posts in it. -/
def morePosts : String × SelectionSet :=
  onePost.addField "posts" [⟨"first", .int 2⟩] none

/-- A set that selects a user, and below it what is given. -/
def userWith (below : SelectionSet) : SelectionSet :=
  empty.run [.field "user" [] (some below)]

theorem plain_onlyId : onlyId.Plain :=
  Built.run .empty (List.forall_mem_singleton.2 (Step.allowed_leaf (by decide) _))

theorem plain_onePost : onePost.Plain :=
  Built.run .empty (List.forall_mem_singleton.2 (Step.allowed_leaf (by decide) _))

theorem plain_userWith {below : SelectionSet} (hbelow : below.Plain) : (userWith below).Plain :=
  Built.run .empty (List.forall_mem_singleton.2 (Step.allowed_above (by decide) _ hbelow))

/-- The key stays valid where the builder starts with what was selected earlier. -/
theorem nested_key_answers_posts :
    (userWith onePost).Plain ∧ onePost.Plain ∧ isAlias "user" = false ∧ isAlias "posts" = false
      ∧ morePosts.1 = "__alias_1"
      ∧ ∃ merged, ((userWith onePost).addField "user" [] (some (morePosts.2.run
          [.typename]))).2.selectedUnder "user" = some merged
        ∧ merged.Answers "__alias_1" "posts" [⟨"first", .int 2⟩] := by
  have hparent := plain_userWith plain_onePost
  have hcall : onePost.addField "posts" [⟨"first", .int 2⟩] none = ("__alias_1", morePosts.2) :=
    Prod.ext (by decide) rfl
  have houter : (userWith onePost).addField "user" [] (some (morePosts.2.run [.typename]))
      = ("user", ((userWith onePost).addField "user" []
        (some (morePosts.2.run [.typename]))).2) := Prod.ext (by decide) rfl
  have hnested : ∀ below ∈ (none : Option SelectionSet), below.Plain := fun _ h ↦ nomatch h
  have hlater : ∀ step ∈ [Step.typename], step.Plain := List.forall_mem_singleton.2 trivial
  obtain ⟨⟨merged, hmerged, hiff⟩, hbuilder⟩ := nested_key_answers_iff hparent plain_onePost
    (by decide) (by decide) hnested hlater hcall rfl houter
  refine ⟨hparent, plain_onePost, by decide, by decide, by decide, merged, hmerged, hiff.2 ?_⟩
  have hearlier : (userWith onePost).selectedUnder "user" = some onePost := rfl
  rw [hearlier, KeyKept, if_neg (by decide)]
  exact ⟨hbuilder (by decide), .inl (by decide)⟩

/-- The key goes to no field where something else was selected earlier: the field is numbered by
its new position. -/
theorem nested_key_moves :
    (userWith onlyId).Plain ∧ onePost.Plain ∧ isAlias "user" = false ∧ isAlias "posts" = false
      ∧ morePosts.1 = "__alias_1"
      ∧ ∃ merged, ((userWith onlyId).addField "user" [] (some morePosts.2)).2.selectedUnder
          ((userWith onlyId).addField "user" [] (some morePosts.2)).1 = some merged
        ∧ ¬ merged.Answers "__alias_1" "posts" [⟨"first", .int 2⟩]
        ∧ merged.Answers "__alias_2" "posts" [⟨"first", .int 2⟩] := by
  have hheads : (onlyId.merge morePosts.2).heads = [.field "id" none "",
      .field "posts" none "(first: 1)", .field "posts" (some "__alias_2") "(first: 2)"] := by
    decide
  have hsignature : renderArguments [⟨"first", .int 2⟩] = "(first: 2)" := by decide
  refine ⟨plain_userWith plain_onlyId, plain_onePost, by decide, by decide, by decide,
    onlyId.merge morePosts.2, rfl, ?_, ?_⟩
  · rw [answers_iff, hheads, hsignature]
    rintro ⟨alias?, hmem, hkey⟩
    obtain rfl : alias? = some "__alias_2" := by simpa using hmem
    exact absurd hkey (by decide)
  · rw [answers_iff, hheads, hsignature]
    exact ⟨some "__alias_2", by decide, rfl⟩

end SelectionSet

end Query
end QueryBuilder
