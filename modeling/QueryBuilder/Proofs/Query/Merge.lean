import QueryBuilder.Proofs.Query.Canonical

/-!
# Merging is building in one go

Merging a set into another has the same effect as making on the first set the calls that built
the second.  So merging is associative, the empty set is its identity, and a set that is merged
into itself stays as it is.

## Why it is right

A selection that is added to the second set of a merge might as well be added to the result
(`SelectionSet.merge_mergeOne`).  If its entry is new to the second set, it comes last there, so
this is how `merge` works anyway.  If it is not, there is an earlier selection `t` of the same
entry, and two facts are needed:

* adding `t` after it has absorbed the selection is adding `t` and then the selection
  (`SelectionSet.mergeOne_absorb`).  This is associativity one level down;
* the selection may then be moved behind everything that follows `t`, because those are other
  entries and its own is there (`SelectionSet.Numbered.foldl_mergeOne_comm`).

Associativity itself is the same statement for all the selections of the third set
(`SelectionSet.Canonical.merge_assoc`), so the two go by one induction on that set.
-/

set_option autoImplicit false

namespace QueryBuilder
namespace Query

/-! ## Absorbing -/

theorem SelectionSet.mergeBelow_assoc {x? y? z? : Option SelectionSet}
    (hassoc : ∀ x ∈ x?, ∀ y ∈ y?, ∀ z ∈ z?, (x.merge y).merge z = x.merge (y.merge z)) :
    mergeBelow x? (mergeBelow y? z?) = mergeBelow (mergeBelow x? y?) z? := by
  cases z? with
  | none => rfl
  | some z =>
    cases y? with
    | none => rfl
    | some y =>
      cases x? with
      | none => rfl
      | some x => exact congrArg some (hassoc x rfl y rfl z rfl).symm

namespace Selection

theorem absorb_number (before : List Entry) (t s : Selection) :
    (t.number before).absorb s = (t.absorb s).number before := by
  cases s <;> cases t <;> rfl

theorem absorb_assoc {u t s : Selection} (hut : u.entry = t.entry) (hts : t.entry = s.entry)
    (hassoc : ∀ x ∈ u.below?, ∀ y ∈ t.below?, ∀ z ∈ s.below?,
      (x.merge y).merge z = x.merge (y.merge z)) :
    u.absorb (t.absorb s) = (u.absorb t).absorb s := by
  cases s with
  | field name alias? arguments nested =>
    cases t with
    | fragment => exact absurd hts.symm entry_field_ne_fragment
    | field =>
      cases u with
      | fragment => exact absurd hut.symm entry_field_ne_fragment
      | field name' alias?' arguments' nested' =>
        exact congrArg (field name' alias?' arguments') (SelectionSet.mergeBelow_assoc hassoc)
  | fragment condition nested =>
    cases t with
    | field => exact absurd hts entry_field_ne_fragment
    | fragment =>
      cases u with
      | field => exact absurd hut entry_field_ne_fragment
      | fragment condition' nested' =>
        exact congrArg (fragment condition') (hassoc _ rfl _ rfl _ rfl).symm

theorem absorb_self {s : Selection} (hself : ∀ below ∈ s.below?, below.merge below = below) :
    s.absorb s = s := by
  cases s with
  | field name alias? arguments nested =>
    cases nested with
    | none => rfl
    | some below =>
      rw [absorb, mapNested, SelectionSet.mergeBelow, hself below rfl]
  | fragment condition nested => rw [absorb, mapFragment, hself nested rfl]

theorem number_eq_self {before : List Entry} {s : Selection}
    (h : s.head.number before = s.head) : s.number before = s := by
  cases s with
  | field name alias? arguments nested => rw [number, (Head.field.inj h).2.1]
  | fragment condition nested => rfl

end Selection

namespace SelectionSet

/-! ## Changes and additions side by side -/

section

variable {set : SelectionSet} {e e' : Entry} {change change' : Selection → Selection}

theorem entry_eq_of_head (hchange : ∀ s, (change s).head = s.head) (s : Selection) :
    (change s).entry = s.entry := by
  rw [Selection.entry, hchange, Selection.entry]

theorem changeAt_changeAt (hchange : ∀ s, (change s).head = s.head) :
    (set.changeAt e change).changeAt e change' = set.changeAt e fun s ↦ change' (change s) := by
  rw [changeAt, changeAt, changeAt, selections, List.map_map]
  refine congrArg (mk · _) (List.map_congr_left fun s _ ↦ ?_)
  rw [Function.comp_apply]
  by_cases hs : s.entry = e
  · rw [if_pos hs, if_pos hs, entry_eq_of_head hchange, if_pos hs]
  · rw [if_neg hs, if_neg hs, if_neg hs]

theorem changeAt_comm (hne : e ≠ e') (hchange : ∀ s, (change s).head = s.head)
    (hchange' : ∀ s, (change' s).head = s.head) :
    (set.changeAt e change).changeAt e' change' = (set.changeAt e' change').changeAt e change := by
  rw [changeAt, changeAt, changeAt, changeAt, selections, selections, List.map_map, List.map_map]
  refine congrArg (mk · _) (List.map_congr_left fun s _ ↦ ?_)
  rw [Function.comp_apply, Function.comp_apply]
  by_cases hs : s.entry = e
  · have hs' : s.entry ≠ e' := hs ▸ hne
    rw [if_pos hs, if_neg hs', entry_eq_of_head hchange, if_neg hs', if_pos hs]
  · by_cases hs' : s.entry = e'
    · rw [if_neg hs, if_pos hs', entry_eq_of_head hchange', if_neg hs]
    · rw [if_neg hs, if_neg hs', if_neg hs]

theorem changeAt_push_of_ne {s : Selection} (hne : s.entry ≠ e)
    (hchange : ∀ s, (change s).head = s.head) :
    (set.push s).changeAt e change = (set.changeAt e change).push s := by
  rw [push, push, heads_changeAt hchange, entries_changeAt hchange, changeAt, changeAt, selections,
    selections, List.map_append, List.map_singleton, Selection.entry_number, if_neg hne]
  rfl

theorem changeAt_push_self {s r : Selection} (hs : s.entry ∉ set.entries) :
    (set.push s).changeAt s.entry (·.absorb r) = set.push (s.absorb r) := by
  have hrest : (set.selections.map fun t ↦ if t.entry = s.entry then t.absorb r else t)
      = set.selections := map_ite_eq_self fun t ht hentry ↦ hs (hentry ▸ List.mem_map_of_mem ht)
  rw [push, push, changeAt, selections, List.map_append, List.map_singleton, hrest,
    Selection.entry_number, if_pos rfl, Selection.absorb_number, Selection.head_absorb]
  rfl

end

theorem mergeOne_number (set : SelectionSet) (before : List Entry) (s : Selection) :
    set.mergeOne (s.number before) = set.mergeOne s := by
  cases s with
  | field => rw [Selection.number, mergeOne, mergeOne]
  | fragment => rw [Selection.number]

namespace Numbered

variable {set : SelectionSet} (hset : set.Numbered) {s : Selection}
include hset

/-- A selection of an entry that is there may be added later. -/
theorem mergeOne_comm (hs : s.entry ∈ set.entries) {r : Selection} (hplain : r.head.Plain)
    (hne : r.entry ≠ s.entry) : (set.mergeOne s).mergeOne r = (set.mergeOne r).mergeOne s := by
  have hchange : ∀ t : Selection, (t.absorb s).head = t.head := fun t ↦ Selection.head_absorb t s
  have hchange' : ∀ t : Selection, (t.absorb r).head = t.head := fun t ↦ Selection.head_absorb t r
  rw [hset.mergeOne_of_mem hs]
  have hset' := hset.changeAt s.entry hchange
  by_cases hr : r.entry ∈ set.entries
  · rw [hset'.mergeOne_of_mem (by rw [entries_changeAt hchange]; exact hr),
      hset.mergeOne_of_mem hr,
      (hset.changeAt r.entry hchange').mergeOne_of_mem (by
        rw [entries_changeAt hchange']; exact hs),
      changeAt_comm hne.symm hchange hchange']
  · rw [hset'.mergeOne_of_not_mem hplain (by rw [entries_changeAt hchange]; exact hr),
      hset.mergeOne_of_not_mem hplain hr,
      (hset.push hplain hr).mergeOne_of_mem (by
        rw [entries_push]; exact List.mem_append_left _ hs),
      changeAt_push_of_ne hne hchange]

/-- It may be added after all selections of other entries. -/
theorem foldl_mergeOne_comm (hs : s.entry ∈ set.entries) {l : List Selection}
    (hl : ∀ r ∈ l, r.head.Plain ∧ r.entry ≠ s.entry) :
    l.foldl SelectionSet.mergeOne (set.mergeOne s)
      = (l.foldl SelectionSet.mergeOne set).mergeOne s := by
  induction l generalizing set with
  | nil => rfl
  | cons r l ih =>
    obtain ⟨hr, hne⟩ := hl r List.mem_cons_self
    rw [List.foldl_cons, List.foldl_cons, hset.mergeOne_comm hs hr hne]
    exact ih (hset.mergeOne hr) (hset.mem_entries_mergeOne_of_mem hr hs)
      fun t ht ↦ hl t (List.mem_cons_of_mem r ht)

end Numbered

/-! ## Associativity -/

/-- Adding a selection that has absorbed another is adding the two. -/
theorem mergeOne_absorb {x : SelectionSet} (hx : x.Canonical) {t s : Selection}
    (ht : t.head.Plain) (hts : t.entry = s.entry)
    (hassoc : ∀ u : SelectionSet, u.Canonical → ∀ y ∈ t.below?, ∀ z ∈ s.below?,
      (u.merge y).merge z = u.merge (y.merge z)) :
    x.mergeOne (t.absorb s) = (x.mergeOne t).mergeOne s := by
  have hchange : ∀ u : Selection, (u.absorb t).head = u.head := fun u ↦ Selection.head_absorb u t
  have htabsorb : (t.absorb s).head.Plain := by
    rw [Selection.head_absorb]
    exact ht
  by_cases hmem : t.entry ∈ x.entries
  · have hmem' : s.entry ∈ (x.changeAt t.entry (·.absorb t)).entries := by
      rw [entries_changeAt hchange, ← hts]
      exact hmem
    rw [hx.numbered.mergeOne_of_mem (by rw [Selection.entry_absorb]; exact hmem),
      hx.numbered.mergeOne_of_mem hmem,
      (hx.numbered.changeAt t.entry hchange).mergeOne_of_mem hmem', ← hts,
      changeAt_changeAt hchange, Selection.entry_absorb]
    refine congrArg (mk · _) (List.map_congr_left fun u hu ↦ ?_)
    split_ifs with hut
    · exact Selection.absorb_assoc hut hts fun v hv ↦ hassoc v (hx.of_below? hu hv)
    · rfl
  · have hmem' : s.entry ∈ (x.push t).entries := by
      rw [entries_push, hts]
      exact List.mem_append_right _ (List.mem_singleton_self _)
    rw [hx.numbered.mergeOne_of_not_mem htabsorb (by rw [Selection.entry_absorb]; exact hmem),
      hx.numbered.mergeOne_of_not_mem ht hmem,
      (hx.numbered.push ht hmem).mergeOne_of_mem hmem', ← hts, changeAt_push_self hmem]

/-- A change at the entry of a selection is a change of that selection only. -/
theorem Numbered.selections_changeAt {set : SelectionSet} (hset : set.Numbered) {t : Selection}
    {front back : List Selection} (hsplit : set.selections = front ++ t :: back)
    (change : Selection → Selection) :
    (set.changeAt t.entry change).selections = front ++ change t :: back := by
  obtain ⟨hfront, hback⟩ := hset.entry_ne_of_split hsplit
  rw [SelectionSet.changeAt, selections, hsplit, List.map_append, List.map_cons, if_pos rfl,
    map_ite_eq_self hfront, map_ite_eq_self hback]

/-- **Adding a selection to the second set of a merge is adding it to the result.** -/
theorem merge_mergeOne {x y : SelectionSet} (hx : x.Canonical) (hy : y.Canonical)
    {s : Selection} (hs : s.head.Plain)
    (hassoc : ∀ u v : SelectionSet, u.Canonical → v.Canonical → ∀ z ∈ s.below?,
      (u.merge v).merge z = u.merge (v.merge z)) :
    x.merge (y.mergeOne s) = (x.merge y).mergeOne s := by
  by_cases hmem : s.entry ∈ y.entries
  · obtain ⟨t, ht, hts⟩ := List.mem_map.1 hmem
    obtain ⟨front, back, hsplit⟩ := List.append_of_mem ht
    have hchanged := hy.numbered.selections_changeAt hsplit (·.absorb s)
    have hfront : (front.foldl mergeOne x).Canonical :=
      hx.foldl_mergeOne_of_subset hy (hsplit ▸ List.subset_append_left _ _)
    have htplain : t.head.Plain := hy.plain ht
    have hlater : ∀ r ∈ back, r.head.Plain ∧ r.entry ≠ s.entry := fun r hr ↦
      ⟨hy.plain (hsplit ▸ List.mem_append_right _ (List.mem_cons_of_mem t hr)),
        hts ▸ (hy.numbered.entry_ne_of_split hsplit).2 r hr⟩
    calc x.merge (y.mergeOne s)
        = back.foldl mergeOne ((front.foldl mergeOne x).mergeOne (t.absorb s)) := by
          rw [hy.numbered.mergeOne_of_mem hmem, ← hts, merge_eq_foldl, hchanged,
            List.foldl_append, List.foldl_cons]
      _ = back.foldl mergeOne (((front.foldl mergeOne x).mergeOne t).mergeOne s) := by
          rw [mergeOne_absorb hfront htplain hts fun u hu v hv ↦
            hassoc u v hu (hy.of_below? ht hv)]
      _ = (back.foldl mergeOne ((front.foldl mergeOne x).mergeOne t)).mergeOne s :=
          (hfront.numbered.mergeOne htplain).foldl_mergeOne_comm
            (hts ▸ hfront.numbered.mem_entries_mergeOne htplain) hlater
      _ = (x.merge y).mergeOne s := by
          rw [merge_eq_foldl, hsplit, List.foldl_append, List.foldl_cons]
  · rw [hy.numbered.mergeOne_of_not_mem hs hmem, merge_eq_foldl, merge_eq_foldl, push, selections,
      List.foldl_append, List.foldl_cons, List.foldl_nil, mergeOne_number]

/-- **Merging is associative.** -/
theorem Canonical.merge_assoc {z : SelectionSet} (hz : z.Canonical) {x y : SelectionSet}
    (hx : x.Canonical) (hy : y.Canonical) : (x.merge y).merge z = x.merge (y.merge z) := by
  induction hz generalizing x y with
  | @mk z hnumbered hbelow ih =>
    have hz : z.Canonical := .mk hnumbered hbelow
    suffices hfold : ∀ l, l ⊆ z.selections → ∀ y : SelectionSet, y.Canonical →
        l.foldl SelectionSet.mergeOne (x.merge y)
          = x.merge (l.foldl SelectionSet.mergeOne y) by
      rw [merge_eq_foldl, merge_eq_foldl y]
      exact hfold _ (List.Subset.refl _) y hy
    intro l hl
    induction l with
    | nil => exact fun y _ ↦ rfl
    | cons s l ihl =>
      intro y hy
      obtain ⟨hs, hl⟩ := List.cons_subset.1 hl
      have hstep : x.merge (y.mergeOne s) = (x.merge y).mergeOne s :=
        merge_mergeOne hx hy (hz.plain hs) fun u v hu hv w hw ↦ ih s hs w hw hu hv
      rw [List.foldl_cons, List.foldl_cons, ← hstep]
      exact ihl hl _ (hy.mergeOne_of_below (hz.plain hs) (hbelow s hs))

/-! ## Identities and idempotence -/

/-- Adding numbered selections to the empty set reproduces them. -/
theorem foldl_mergeOne_empty {l : List Selection} (hl : NumberedHeads (l.map Selection.head)) :
    l.foldl mergeOne empty = .mk l (resolverOf (l.map Selection.head)) := by
  induction l using List.reverseRecOn with
  | nil => rfl
  | append_singleton l s ih =>
    rw [List.map_append, List.map_singleton] at hl
    obtain ⟨hfront, hplain, hnew, hnumber⟩ := hl.of_concat
    have hset : (mk l (resolverOf (l.map Selection.head))).Numbered := ⟨hfront, rfl⟩
    have hentries : (mk l (resolverOf (l.map Selection.head))).entries
        = (l.map Selection.head).map Head.entry := (map_entry_heads _).symm
    rw [List.foldl_append, ih hfront, List.foldl_cons, List.foldl_nil,
      hset.mergeOne_of_not_mem hplain (by rw [hentries]; exact hnew), push, hentries, hnumber,
      Selection.number_eq_self hnumber, List.map_append]
    rfl

theorem Numbered.empty_merge {set : SelectionSet} (hset : set.Numbered) :
    SelectionSet.empty.merge set = set := by
  rw [merge_eq_foldl, foldl_mergeOne_empty hset.heads, ← SelectionSet.heads, ← hset.aliases]
  cases set
  rfl

theorem merge_empty (set : SelectionSet) : set.merge .empty = set := by
  rw [merge_eq_foldl]
  rfl

/-- Adding a selection that is there changes nothing, if merging does not below it. -/
theorem Numbered.mergeOne_self {set : SelectionSet} (hset : set.Numbered) {s : Selection}
    (hs : s ∈ set.selections) (hself : ∀ below ∈ s.below?, below.merge below = below) :
    set.mergeOne s = set := by
  have hmap : (set.selections.map fun t ↦ if t.entry = s.entry then t.absorb s else t)
      = set.selections := by
    refine (List.map_congr_left fun t ht ↦ ?_).trans (List.map_id _)
    split_ifs with hentry
    · rw [List.inj_on_of_nodup_map hset.nodup ht hs hentry, Selection.absorb_self hself, id]
    · rfl
  rw [hset.mergeOne_of_mem (List.mem_map_of_mem hs), SelectionSet.changeAt, hmap]
  cases set
  rfl

/-- **Merging a set into itself changes nothing.** -/
theorem Canonical.merge_self {set : SelectionSet} (hset : set.Canonical) :
    set.merge set = set := by
  induction hset with
  | @mk set hnumbered _ ih =>
    rw [merge_eq_foldl]
    refine List.foldlRecOn (motive := fun other ↦ other = set) set.selections
      SelectionSet.mergeOne rfl fun other hother s hs ↦ ?_
    rw [hother]
    exact hnumbered.mergeOne_self hs (ih s hs)

/-! ## Merging and building -/

/-- A call on the second set of a merge may be made on the result. -/
theorem merge_apply {x y : SelectionSet} (hx : x.Canonical) (hy : y.Canonical) {step : Step}
    (hstep : step.Plain) : x.merge (y.apply step) = (x.merge y).apply step := by
  cases step with
  | field name arguments nested =>
    exact merge_mergeOne hx hy hstep.1 fun u v hu hv z hz ↦
      (Plain.canonical (hstep.2 z hz)).merge_assoc hu hv
  | typename =>
    exact merge_mergeOne hx hy isAlias_typenameField fun _ _ _ _ _ h ↦ nomatch h
  | fragment typeCondition nested =>
    refine merge_mergeOne hx hy trivial fun u v hu hv z hz ↦ ?_
    obtain rfl := Option.some.inj hz
    exact (Plain.canonical hstep).merge_assoc hu hv
  | merge other => exact ((Plain.canonical hstep).merge_assoc hx hy).symm

/-- All calls on the second set of a merge may be made on the result. -/
theorem merge_run {x y : SelectionSet} (hx : x.Canonical) (hy : y.Plain) {steps : List Step}
    (hsteps : ∀ step ∈ steps, step.Plain) : x.merge (y.run steps) = (x.merge y).run steps := by
  induction steps generalizing y with
  | nil => rfl
  | cons step steps ih =>
    obtain ⟨hstep, hsteps⟩ := List.forall_mem_cons.1 hsteps
    calc x.merge ((y.apply step).run steps)
        = (x.merge (y.apply step)).run steps := ih (Built.apply hy hstep) hsteps
      _ = ((x.merge y).apply step).run steps := by rw [merge_apply hx hy.canonical hstep]

/-- **Merging two sets is building in one go.**  The set that is merged into another might as well
have been built on it.  So merging is associative and idempotent, and the empty set is its
identity. -/
theorem merge_run_run :
    (∀ xs ys : List Step, (∀ x ∈ xs, x.Plain) → (∀ y ∈ ys, y.Plain) →
        (empty.run xs).merge (empty.run ys) = empty.run (xs ++ ys))
      ∧ (∀ x y z : SelectionSet, x.Plain → y.Plain → z.Plain →
        (x.merge y).merge z = x.merge (y.merge z))
      ∧ ∀ x : SelectionSet, x.Plain →
        empty.merge x = x ∧ x.merge empty = x ∧ x.merge x = x := by
  refine ⟨fun xs ys hxs hys ↦ ?_, fun x y z hx hy hz ↦ ?_, fun x hx ↦ ⟨?_, ?_, ?_⟩⟩
  · have hx : (empty.run xs).Plain := Built.run .empty hxs
    rw [merge_run hx.canonical .empty hys, merge_empty, run_append]
  · exact hz.canonical.merge_assoc hx.canonical hy.canonical
  · exact hx.canonical.numbered.empty_merge
  · exact merge_empty x
  · exact hx.canonical.merge_self

/-- Calls that select the first post of a user. -/
def firstPost : List Step :=
  [.field "user" [] (some (empty.run [.field "posts" [⟨"first", .int 1⟩] none]))]

/-- Calls that select the identifier and the first two posts of a user. -/
def firstPosts : List Step :=
  [.typename, .field "user" [] (some (empty.run
    [.field "id" [] none, .field "posts" [⟨"first", .int 2⟩] none]))]

theorem plain_firstPost : ∀ step ∈ firstPost, step.Plain := by
  refine List.forall_mem_singleton.2 (Step.allowed_above (by decide) [] ?_)
  exact Built.run .empty (List.forall_mem_singleton.2 (Step.allowed_leaf (by decide) _))

theorem plain_firstPosts : ∀ step ∈ firstPosts, step.Plain := by
  refine List.forall_mem_cons.2 ⟨trivial, List.forall_mem_singleton.2
    (Step.allowed_above (by decide) [] ?_)⟩
  exact Built.run .empty (List.forall_mem_cons.2 ⟨Step.allowed_leaf (by decide) [],
    List.forall_mem_singleton.2 (Step.allowed_leaf (by decide) _)⟩)

/-- The laws at two sets that select one field of a user with different arguments.  In the result,
the second occurrence is numbered by its new position. -/
theorem merge_run_run_posts :
    (∀ x ∈ firstPost, x.Plain) ∧ (∀ y ∈ firstPosts, y.Plain)
      ∧ (empty.run firstPost).Plain ∧ (empty.run firstPosts).Plain
      ∧ (empty.run firstPost).merge (empty.run firstPosts) = empty.run (firstPost ++ firstPosts)
      ∧ ((empty.run firstPost).merge (empty.run firstPosts)).merge (empty.run firstPost)
        = (empty.run firstPost).merge ((empty.run firstPosts).merge (empty.run firstPost))
      ∧ empty.merge (empty.run firstPosts) = empty.run firstPosts
      ∧ (empty.run firstPosts).merge empty = empty.run firstPosts
      ∧ (empty.run firstPosts).merge (empty.run firstPosts) = empty.run firstPosts
      ∧ (empty.run (firstPost ++ firstPosts)).render
        = "\x7b user \x7b posts(first: 1) id __alias_2: posts(first: 2) \x7d __typename \x7d" := by
  have hpost : (empty.run firstPost).Plain := Built.run .empty plain_firstPost
  have hposts : (empty.run firstPosts).Plain := Built.run .empty plain_firstPosts
  obtain ⟨hleft, hright, hself⟩ := merge_run_run.2.2 _ hposts
  exact ⟨plain_firstPost, plain_firstPosts, hpost, hposts,
    merge_run_run.1 _ _ plain_firstPost plain_firstPosts,
    merge_run_run.2.1 _ _ _ hpost hposts hpost, hleft, hright, hself, by decide⟩

end SelectionSet

end Query
end QueryBuilder
