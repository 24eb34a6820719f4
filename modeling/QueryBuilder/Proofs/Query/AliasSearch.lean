import QueryBuilder.Proofs.Name.Search
import QueryBuilder.Proofs.Query.AliasUniqueness

/-!
# Which number an alias gets

The number of a new alias is looked for from the position of the occurrence on.  Positions may be
used twice, and fields may be named like aliases, so the alias with that number can be taken.

* `aliasSearch` — the loop that looks for the number, with numbers up to a limit.
* `AliasResolver.resolve_takes_least` — if the limit leaves as many numbers behind the position as
  there are keys, the loop ends with the least one whose alias is not handed out yet.

The one field that never gets an alias is not remembered
(`AliasResolver.ne_typenameField_of_mentions`), so a new signature of a field that has occurred
always leads to the loop.
-/

set_option autoImplicit false

namespace QueryBuilder
namespace Query

/-- The loop that looks for the number of an alias.  Its state is a number, and there is none beyond
the limit. -/
def aliasSearch (limit : Nat) : Name.Search Nat where
  candidate := aliasKey
  next? index := if index < limit then some (index + 1) else none

theorem counts_aliasSearch {limit index n : Nat} (h : index + n ≤ limit) :
    (aliasSearch limit).Counts (fun i ↦ index + i) n where
  eq_succ i next hnext := by
    obtain ⟨-, rfl⟩ : index + i < limit ∧ index + i + 1 = next := by
      simpa [aliasSearch] using hnext
    rfl
  isSome i hi := by
    have hlt : index + i < limit := by omega
    simp [aliasSearch, hlt]

namespace AliasResolver

/-- The field that never gets an alias is not remembered. -/
theorem ne_typenameField_of_mem_after {calls : List Call} {o : Occurrence}
    (h : o ∈ (after calls).occurrences) : o.field ≠ typenameField := by
  induction calls using List.reverseRecOn with
  | nil => exact absurd h List.not_mem_nil
  | append_singleton calls c ih =>
    rw [after_concat] at h
    rcases of_mem_resolve h with ho | ⟨hfield, rfl, -⟩
    · exact ih ho
    · exact hfield

theorem ne_typenameField_of_mentions {calls : List Call} {field : String}
    (h : (after calls).mentions field = true) : field ≠ typenameField := by
  obtain ⟨o, ho, rfl⟩ := mentions_iff.1 h
  exact ne_typenameField_of_mem_after ho

/-- The number of a new alias is the least one from the position on that is free. -/
theorem isLeast_newIndex (r : AliasResolver) (index : Nat) :
    IsLeast {j | index ≤ j ∧ aliasKey j ∉ r.keys}
      (index + Name.freshIndex r.keys fun i ↦ aliasKey (index + i)) := by
  have hleast := Name.isLeast_freshIndex r.keys (aliasKey_add_injective index)
  refine ⟨⟨Nat.le_add_right _ _, hleast.1⟩, ?_⟩
  rintro j ⟨hj, hfree⟩
  obtain ⟨i, rfl⟩ := Nat.exists_eq_add_of_le hj
  exact Nat.add_le_add_left (hleast.2 hfree) index

/-- **A new occurrence of a field takes the least alias that is free.**  With numbers up to a limit
that leaves one behind the position for every key, the loop that looks for the alias does not run
out of them, rejects at most as many aliases as there are keys, and ends.  The key is the alias with
the least number, from the position on, that is not handed out yet.  It is the only key that is new
afterwards. -/
theorem resolve_takes_least (calls : List Call) (field signature : String) (index limit : Nat)
    (hseen : (after calls).mentions field = true)
    (hnew : (after calls).find? field signature = none)
    (hlimit : index + (after calls).size ≤ limit) :
    (∀ k s, (aliasSearch limit).Rejects (after calls).keys index k s →
        k ≤ (after calls).size
          ∧ (aliasSearch limit).round (after calls).keys s ≠ .overflows)
      ∧ ∃ j, IsLeast {j | index ≤ j ∧ aliasKey j ∉ (after calls).keys} j
        ∧ (aliasSearch limit).Rejects (after calls).keys index (j - index) j
        ∧ (aliasSearch limit).round (after calls).keys j = .accepts
        ∧ ((after calls).resolve field signature index).1 = aliasKey j
        ∧ isAlias ((after calls).resolve field signature index).1 = true
        ∧ ((after calls).resolve field signature index).2.keys.toFinset
          = insert (aliasKey j) (after calls).keys.toFinset := by
  have hcounts := counts_aliasSearch (n := (after calls).keys.eraseDups.length) hlimit
  have hinj := aliasKey_add_injective index
  have hsub : (after calls).keys ⊆ (after calls).keys.eraseDups := fun _ ↦ List.mem_eraseDups.2
  have hresolve : (after calls).resolve field signature index
      = ((after calls).newKey field index, _) :=
    resolve_of_find?_eq_none (ne_typenameField_of_mentions hseen) hnew
  have hkey : (after calls).newKey field index
      = aliasKey (index + Name.freshIndex (after calls).keys fun i ↦ aliasKey (index + i)) := by
    rw [newKey, if_pos hseen, Name.fresh]
  obtain ⟨hrun, hends⟩ := Name.Search.rejects_freshIndex hcounts hinj hsub
  refine ⟨fun k s hrun ↦ ⟨Name.Search.le_length_of_rejects hcounts hinj hsub hrun,
    Name.Search.round_ne_overflows hcounts hinj hsub hrun⟩, _,
    isLeast_newIndex (after calls) index, ?_, hends, ?_, ?_, ?_⟩
  · rw [Nat.add_sub_cancel_left]
    exact hrun
  · rw [hresolve, hkey]
  · rw [hresolve, hkey]
    exact isAlias_aliasKey _
  · rw [hresolve, hkey, keys, List.map_append, List.toFinset_append]
    exact Finset.union_comm _ _

/-- Calls after which two aliases are taken at the end of the numbers of 64 bits: one that was
handed out, and one that is the name of a field. -/
def crowdedCalls : List Call := [
  ⟨"user", "", 0⟩, ⟨"post", "", 1⟩, ⟨"user", "(id: 1)", 18446744073709551611⟩,
  ⟨"__alias_18446744073709551612", "", 3⟩]

theorem resolve_takes_least_crowdedCalls :
    (after crowdedCalls).mentions "post" = true
      ∧ (after crowdedCalls).find? "post" "(id: 1)" = none
      ∧ 18446744073709551611 + (after crowdedCalls).size ≤ 2 ^ 64 - 1
      ∧ ((after crowdedCalls).resolve "post" "(id: 1)" 18446744073709551611).1
        = "__alias_18446744073709551613"
      ∧ (∀ k s,
        (aliasSearch (2 ^ 64 - 1)).Rejects (after crowdedCalls).keys 18446744073709551611 k s →
          k ≤ 4 ∧ (aliasSearch (2 ^ 64 - 1)).round (after crowdedCalls).keys s ≠ .overflows)
      ∧ (aliasSearch (2 ^ 64 - 1)).Rejects (after crowdedCalls).keys 18446744073709551611 2
        18446744073709551613 := by
  have hseen : (after crowdedCalls).mentions "post" = true := by decide
  have hnew : (after crowdedCalls).find? "post" "(id: 1)" = none := by decide
  have hsize : (after crowdedCalls).size = 4 := by decide
  have hlimit : 18446744073709551611 + (after crowdedCalls).size ≤ 2 ^ 64 - 1 := by
    rw [hsize]
    decide
  have hkey : ((after crowdedCalls).resolve "post" "(id: 1)" 18446744073709551611).1
      = aliasKey 18446744073709551613 := by
    decide
  obtain ⟨hrejects, j, -, hrun, -, hresolve, -⟩ :=
    resolve_takes_least crowdedCalls "post" "(id: 1)" 18446744073709551611 (2 ^ 64 - 1) hseen hnew
      hlimit
  obtain rfl := aliasKey_injective (hkey.symm.trans hresolve)
  rw [hsize] at hrejects
  exact ⟨hseen, hnew, hlimit, hkey, hrejects, hrun⟩

end AliasResolver
end Query
end QueryBuilder
