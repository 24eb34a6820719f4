import QueryBuilder.Proofs.Query.Canonical
import QueryBuilder.Proofs.Query.KeyStability

/-!
# What holds at every depth

A set that can be built contains only sets that can be built.  So a property which the empty set
has and which adding a selection keeps holds of a set and of all the sets inside it.

* `SelectionSet.Hereditary` — a property of a set and of the sets inside it.
* `SelectionSet.below?_of_mem_mergeOne` — where the sets come from that are inside a set after a
  selection has been added: they were there, or are inside the new selection, or are merged of two
  such sets.
* `SelectionSet.Built.hereditary` — what every set has that can be built, it has at every depth.
* `SelectionSet.Reachable.hereditary_shaped` — the aliases in a set have the shape of aliases.
-/

set_option autoImplicit false

namespace QueryBuilder
namespace Query

/-- What is in a list after a change was there before, or is changed. -/
theorem of_mem_modifyFirst {α : Type} {test : α → Bool} {change : α → α} {l m : List α}
    (h : modifyFirst test change l = some m) {a : α} (ha : a ∈ m) :
    a ∈ l ∨ ∃ b ∈ l, a = change b := by
  induction l generalizing m with
  | nil => cases h
  | cons b rest ih =>
    rw [modifyFirst] at h
    split_ifs at h
    · obtain rfl := Option.some.inj h
      rcases List.mem_cons.1 ha with rfl | ha
      · exact .inr ⟨b, List.mem_cons_self, rfl⟩
      · exact .inl (List.mem_cons_of_mem b ha)
    · obtain ⟨m', hm', rfl⟩ := Option.map_eq_some_iff.1 h
      rcases List.mem_cons.1 ha with rfl | ha
      · exact .inl List.mem_cons_self
      · rcases ih hm' ha with ha | ⟨c, hc, rfl⟩
        · exact .inl (List.mem_cons_of_mem b ha)
        · exact .inr ⟨c, List.mem_cons_of_mem b hc, rfl⟩

namespace SelectionSet

/-- The set has a property, and so have the sets inside it. -/
inductive Hereditary (P : SelectionSet → Prop) : SelectionSet → Prop
  | mk {set : SelectionSet} (hset : P set)
      (hbelow : ∀ s ∈ set.selections, ∀ below ∈ s.below?, Hereditary P below) : Hereditary P set

/-! ## Where the sets inside a set come from -/

/-- A selection that takes in another keeps what is below it, or gets what is below the other, or
merges the two. -/
theorem below?_mapNested {u : Selection} {nested : Option SelectionSet} {below : SelectionSet}
    (h : (u.mapNested (mergeBelow · nested)).below? = some below) :
    u.below? = some below ∨ nested = some below ∨ ∃ earlier added, u.below? = some earlier
      ∧ nested = some added ∧ below = earlier.merge added := by
  cases u with
  | field name alias? arguments earlier? => exact eq_some_of_mergeBelow h
  | fragment condition earlier => exact .inl h

theorem below?_mapFragment {u : Selection} {nested below : SelectionSet}
    (h : (u.mapFragment (merge · nested)).below? = some below) :
    u.below? = some below ∨ ∃ earlier, u.below? = some earlier ∧ below = earlier.merge nested := by
  cases u with
  | field name alias? arguments earlier? => exact .inl h
  | fragment condition earlier => exact .inr ⟨earlier, rfl, (Option.some.inj h).symm⟩

/-- **What is inside a set after a selection has been added.** -/
theorem below?_of_mem_mergeOne {set : SelectionSet} {s t : Selection} {below : SelectionSet}
    (ht : t ∈ (set.mergeOne s).selections) (hbelow : t.below? = some below) :
    (∃ u ∈ set.selections, u.below? = some below) ∨ s.below? = some below
      ∨ ∃ u ∈ set.selections, ∃ earlier added, u.below? = some earlier ∧ s.below? = some added
          ∧ below = earlier.merge added := by
  cases s with
  | field name alias? arguments nested =>
    rw [mergeOne] at ht
    cases hmodify : modifyFirst (·.answersUnder (set.resolve name arguments).1)
        (·.mapNested (mergeBelow · nested)) set.selections with
    | some changed =>
      rw [place_of_some hmodify, selections] at ht
      rcases of_mem_modifyFirst hmodify ht with ht | ⟨u, hu, rfl⟩
      · exact .inl ⟨t, ht, hbelow⟩
      · obtain h | h | h := below?_mapNested hbelow
        · exact .inl ⟨u, hu, h⟩
        · exact .inr (.inl h)
        · exact .inr (.inr ⟨u, hu, h⟩)
    | none =>
      rw [place_of_none hmodify, selections, List.mem_append, List.mem_singleton] at ht
      rcases ht with ht | rfl
      · exact .inl ⟨t, ht, hbelow⟩
      · exact .inr (.inl hbelow)
  | fragment condition nested =>
    rw [mergeOne, placeFragment] at ht
    split at ht
    · rename_i changed hmodify
      rw [selections] at ht
      rcases of_mem_modifyFirst hmodify ht with ht | ⟨u, hu, rfl⟩
      · exact .inl ⟨t, ht, hbelow⟩
      · rcases below?_mapFragment hbelow with h | ⟨earlier, hearlier, rfl⟩
        · exact .inl ⟨u, hu, h⟩
        · exact .inr (.inr ⟨u, hu, earlier, nested, hearlier, rfl, rfl⟩)
    · rw [selections, List.mem_append, List.mem_singleton] at ht
      rcases ht with ht | rfl
      · exact .inl ⟨t, ht, hbelow⟩
      · exact .inr (.inl hbelow)

namespace Hereditary

variable {P : SelectionSet → Prop}

theorem self {set : SelectionSet} (h : set.Hereditary P) : P set := by
  cases h with
  | mk hset _ => exact hset

theorem of_below? {set : SelectionSet} (h : set.Hereditary P) {s : Selection}
    (hs : s ∈ set.selections) {below : SelectionSet} (hbelow : s.below? = some below) :
    below.Hereditary P := by
  cases h with
  | mk _ hinside => exact hinside s hs below hbelow

section

variable (hone : ∀ (set : SelectionSet) (s : Selection), P set → P (set.mergeOne s))
include hone

/-- Adding a selection keeps a property at every depth, if merging what is below it does. -/
theorem mergeOne {set : SelectionSet} (hset : set.Hereditary P) {s : Selection}
    (hs : ∀ below ∈ s.below?, below.Hereditary P
      ∧ ∀ earlier : SelectionSet, earlier.Hereditary P → (earlier.merge below).Hereditary P) :
    (set.mergeOne s).Hereditary P := by
  refine .mk (hone set s hset.self) fun t ht inner hinner ↦ ?_
  obtain ⟨u, hu, hbelow⟩ | hbelow | ⟨u, hu, earlier, added, hearlier, hadded, rfl⟩ :=
    below?_of_mem_mergeOne ht hinner
  · exact hset.of_below? hu hbelow
  · exact (hs inner hbelow).1
  · exact (hs added hadded).2 earlier (hset.of_below? hu hearlier)

/-- **Merging keeps a property at every depth.** -/
theorem merge {set added : SelectionSet} (hset : set.Hereditary P) (hadded : added.Hereditary P) :
    (set.merge added).Hereditary P := by
  induction hadded generalizing set with
  | @mk added _ hinside ih =>
    rw [merge_eq_foldl]
    refine List.foldlRecOn added.selections SelectionSet.mergeOne hset fun set hset s hs ↦ ?_
    exact hset.mergeOne hone fun below hbelow ↦
      ⟨hinside s hs below hbelow, fun earlier hearlier ↦ ih s hs below hbelow hearlier⟩

/-- Adding a selection keeps a property that what is below it has. -/
theorem mergeOne_of_below {set : SelectionSet} (hset : set.Hereditary P) {s : Selection}
    (hs : ∀ below ∈ s.below?, below.Hereditary P) : (set.mergeOne s).Hereditary P :=
  hset.mergeOne hone fun below hbelow ↦
    ⟨hs below hbelow, fun _ hearlier ↦ hearlier.merge hone (hs below hbelow)⟩

end

end Hereditary

/-- **What every set has that can be built, it has at every depth.** -/
theorem Built.hereditary {allowed : String → Prop} {P : SelectionSet → Prop} (hempty : P .empty)
    (hone : ∀ set s, P set → P (mergeOne set s)) {set : SelectionSet} (hset : set.Built allowed) :
    set.Hereditary P := by
  induction hset with
  | empty => exact .mk hempty fun _ h ↦ absurd h List.not_mem_nil
  | field _ _ _ ih ihnested => exact ih.mergeOne_of_below hone ihnested
  | typename _ ih => exact ih.mergeOne_of_below hone fun _ h ↦ nomatch h
  | fragment _ _ ih ihnested =>
    refine ih.mergeOne_of_below hone fun below h ↦ ?_
    obtain rfl := Option.some.inj h
    exact ihnested
  | merge _ _ ih ihother => exact ih.merge hone ihother

/-! ## The shape of aliases -/

/-- The keys that the resolver remembers and the aliases of the fields have the shapes that they
are given. -/
structure Shaped (set : SelectionSet) : Prop where
  inStep : set.InStep
  aliases : ∀ name key signature, Head.field name (some key) signature ∈ set.heads →
    isAlias key = true

namespace Shaped

theorem empty : Shaped .empty :=
  ⟨.empty, fun _ _ _ h ↦ absurd h List.not_mem_nil⟩

/-- A key is the bare name of the field or an alias. -/
theorem resolve {set : SelectionSet} (h : set.Shaped) (name : String) (arguments : List Argument) :
    (set.resolve name arguments).1 = name ∨ isAlias (set.resolve name arguments).1 = true := by
  rw [SelectionSet.resolve]
  obtain ⟨-, hr⟩ | ⟨-, o, ho, rfl, -, hr⟩ | ⟨-, hr⟩ := AliasResolver.resolve_cases set.aliases name
    (renderArguments arguments) set.selections.length
  · exact .inl (congrArg Prod.fst hr)
  · rw [hr]
    exact (h.inStep.shape o ho).2
  · rw [hr]
    exact (AliasResolver.newKey_eq_or _ _ _).imp And.left And.left

theorem mergeOne (set : SelectionSet) (s : Selection) (h : set.Shaped) :
    (set.mergeOne s).Shaped := by
  refine ⟨h.inStep.mergeOne set s, fun name key signature hmem ↦ ?_⟩
  cases s with
  | field name' alias? arguments nested =>
    rw [SelectionSet.mergeOne] at hmem
    by_cases hkey : (set.resolve name' arguments).1 ∈ set.responseKeys
    · rw [heads_place_of_mem hkey] at hmem
      exact h.aliases _ _ _ hmem
    · rw [heads_place_of_not_mem hkey, List.mem_append, List.mem_singleton] at hmem
      rcases hmem with hmem | hnew
      · exact h.aliases _ _ _ hmem
      · obtain ⟨-, halias, -⟩ := Head.field.inj hnew
        split_ifs at halias with hbare
        obtain rfl := Option.some.inj halias
        exact (h.resolve name' arguments).resolve_left hbare
  | fragment condition nested =>
    rw [SelectionSet.mergeOne] at hmem
    have hheads : (set.placeFragment condition nested (merge · nested)).heads = set.heads
        ∨ (set.placeFragment condition nested (merge · nested)).heads
          = set.heads ++ [.fragment condition] :=
      heads_placeFragment
    rcases hheads with hheads | hheads
    · rw [hheads] at hmem
      exact h.aliases _ _ _ hmem
    · rw [hheads, List.mem_append, List.mem_singleton] at hmem
      rcases hmem with hmem | hnew
      · exact h.aliases _ _ _ hmem
      · cases hnew

end Shaped

/-- **The aliases in a set that can be built have the shape of aliases, at every depth.** -/
theorem Reachable.hereditary_shaped {set : SelectionSet} (hset : set.Reachable) :
    set.Hereditary Shaped :=
  Built.hereditary Shaped.empty Shaped.mergeOne hset

end SelectionSet

end Query
end QueryBuilder
