import Mathlib.Data.List.Nodup
import Mathlib.Data.List.Perm.Subperm
import QueryBuilder.Name.Fresh

/-!
# Fresh names are fresh

The bounded search of `Name.fresh` finds a free candidate whenever the candidates differ: they
cannot all be among the taken names, because there is one more of them.  All candidates before the
one that it finds are taken.
-/

set_option autoImplicit false

namespace QueryBuilder
namespace Name

/-- Different candidates that are all taken are no more than the taken names. -/
theorem le_length_of_forall_mem {taken : List String} {candidate : Nat → String}
    (hinj : Function.Injective candidate) {k : Nat} (h : ∀ i < k, candidate i ∈ taken) :
    k ≤ taken.length := by
  have hsub : (List.range k).map candidate ⊆ taken := by
    intro name hname
    obtain ⟨i, hi, rfl⟩ := List.mem_map.1 hname
    exact h i (List.mem_range.1 hi)
  have hnodup : ((List.range k).map candidate).Nodup := List.Nodup.map hinj List.nodup_range
  have hle := (hnodup.subperm hsub).length_le
  rwa [List.length_map, List.length_range] at hle

/-- Among one candidate more than there are taken names, one is free. -/
theorem exists_candidate_not_mem (taken : List String) {candidate : Nat → String}
    (hinj : Function.Injective candidate) : ∃ i ≤ taken.length, candidate i ∉ taken := by
  by_contra! hall
  have hle := le_length_of_forall_mem hinj fun i hi ↦ hall i (Nat.le_of_lt_succ hi)
  exact absurd hle (Nat.not_succ_le_self _)

theorem find?_freshIndex (taken : List String) {candidate : Nat → String}
    (hinj : Function.Injective candidate) :
    (List.range (taken.length + 1)).find? (fun i ↦ !taken.contains (candidate i))
      = some (freshIndex taken candidate) := by
  obtain ⟨i, hi, hfree⟩ := exists_candidate_not_mem taken hinj
  have hsome : ((List.range (taken.length + 1)).find?
      fun i ↦ !taken.contains (candidate i)).isSome := by
    rw [List.find?_isSome]
    exact ⟨i, List.mem_range.2 (Nat.lt_succ_of_le hi), by simpa using hfree⟩
  obtain ⟨j, hj⟩ := Option.isSome_iff_exists.1 hsome
  rw [freshIndex, hj, Option.getD_some]

/-- **A fresh name is not taken.** -/
theorem fresh_not_mem {taken : List String} {candidate : Nat → String}
    (hinj : Function.Injective candidate) : fresh taken candidate ∉ taken := by
  rw [fresh]
  simpa using List.find?_some (find?_freshIndex taken hinj)

/-- **The candidates before a fresh name are taken.** -/
theorem mem_of_lt_freshIndex {taken : List String} {candidate : Nat → String}
    (hinj : Function.Injective candidate) {i : Nat} (hi : i < freshIndex taken candidate) :
    candidate i ∈ taken := by
  have hbefore := (List.find?_range_eq_some.1 (find?_freshIndex taken hinj)).2.2 i hi
  simpa using hbefore

/-- The first candidate is chosen if it is free. -/
theorem fresh_eq_of_not_mem {taken : List String} {candidate : Nat → String}
    (h : candidate 0 ∉ taken) : fresh taken candidate = candidate 0 := by
  have hfind : (List.range (taken.length + 1)).find?
      (fun i ↦ !taken.contains (candidate i)) = some 0 := by
    rw [List.range_succ_eq_map, List.find?_cons_of_pos (by simpa using h)]
  rw [fresh, freshIndex, hfind, Option.getD_some]

end Name
end QueryBuilder
