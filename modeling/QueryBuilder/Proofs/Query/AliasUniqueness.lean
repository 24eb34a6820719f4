import Mathlib.Data.List.Induction
import Mathlib.Order.Fin.Basic
import Mathlib.Order.WellFounded
import QueryBuilder.Proofs.Query.Alias
import QueryBuilder.Proofs.Run

/-!
# Which occurrences share a response key

A resolver answers one call after the other.  Two calls with the same field and the same signature
are the same occurrence and get the same key.  Other calls get different keys, with one exception:
the first occurrence of a field keeps its bare name even if that is an alias by then.

## What is here

* `AliasResolver.Call`, `AliasResolver.after`, `AliasResolver.key` — a list of calls on a new
  resolver, and the key that each of them gets.
* `AliasResolver.key_eq_of_same`, `AliasResolver.key_of_isFirst` — the same occurrence gets the
  same key, and the first occurrence of a field its bare name.
* `AliasResolver.Captures` — the exception: a field occurs for the first time when its name has
  become the alias of another field.
* `AliasResolver.key_eq_iff` — two calls get the same key exactly if they are the same occurrence
  or one captures the key of the other.

No way of numbering avoids the exception.  Whatever alias the second occurrence of a field gets,
the next call may be the first one for a field of that name.
-/

set_option autoImplicit false

namespace QueryBuilder
namespace Query
namespace AliasResolver

/-! ## Calls -/

/-- The arguments of a call of `resolve`. -/
structure Call where
  field : String
  signature : String
  index : Nat
  deriving DecidableEq

/-- The key that a call gets, and the resolver after it. -/
def answer (r : AliasResolver) (c : Call) : String × AliasResolver :=
  r.resolve c.field c.signature c.index

/-- The resolver after some calls. -/
def after (calls : List Call) : AliasResolver :=
  calls.foldl (fun r c ↦ (r.answer c).2) .empty

/-- The key that a call gets in a list of calls. -/
def key (calls : List Call) (i : Fin calls.length) : String :=
  ((after (calls.take i)).answer calls[i]).1

/-- The calls are for one occurrence: the same field with the same arguments. -/
def Call.Same (c c' : Call) : Prop :=
  c.field = c'.field ∧ c.signature = c'.signature

instance (c c' : Call) : Decidable (c.Same c') :=
  inferInstanceAs (Decidable (_ ∧ _))

/-- The call is the first one for its field. -/
def IsFirst (calls : List Call) (i : Fin calls.length) : Prop :=
  ∀ h < i, calls[h].field ≠ calls[i].field

instance (calls : List Call) (i : Fin calls.length) : Decidable (IsFirst calls i) :=
  inferInstanceAs (Decidable (∀ h < i, calls[h].field ≠ calls[i].field))

/-- The second call is for the first occurrence of a field, and before that field occurred, its
name became the key of the first call's occurrence. -/
def Captures (calls : List Call) (i j : Fin calls.length) : Prop :=
  ∃ n m, n < m ∧ calls[n].Same calls[i] ∧ calls[m].Same calls[j] ∧ IsFirst calls m
    ∧ key calls n = calls[m].field

instance (calls : List Call) (i j : Fin calls.length) : Decidable (Captures calls i j) :=
  inferInstanceAs (Decidable (∃ n m, n < m ∧ calls[n].Same calls[i] ∧ calls[m].Same calls[j]
    ∧ IsFirst calls m ∧ key calls n = calls[m].field))

theorem Call.Same.symm {c c' : Call} (h : c.Same c') : c'.Same c :=
  ⟨h.1.symm, h.2.symm⟩

/-! ## What a resolver has seen -/

variable {calls : List Call}

theorem after_concat (calls : List Call) (c : Call) :
    after (calls ++ [c]) = ((after calls).answer c).2 := by
  rw [after, List.foldl_append]
  rfl

theorem after_take_succ (i : Fin calls.length) :
    after (calls.take (i + 1)) = ((after (calls.take i)).answer calls[i]).2 :=
  foldl_take_succ i

/-- What is remembered belongs to a call that was made. -/
theorem of_mem_after {o : Occurrence} (h : o ∈ (after calls).occurrences) :
    ∃ c ∈ calls, c.field = o.field ∧ c.signature = o.signature := by
  induction calls using List.reverseRecOn with
  | nil => exact absurd h List.not_mem_nil
  | append_singleton calls c ih =>
    rw [after_concat] at h
    rcases of_mem_resolve h with ho | ⟨-, rfl, -⟩
    · obtain ⟨d, hd, hsame⟩ := ih ho
      exact ⟨d, List.mem_append_left _ hd, hsame⟩
    · exact ⟨c, List.mem_append_right _ (List.mem_singleton_self c), rfl, rfl⟩

theorem exists_lt_of_mem_after {i : Fin calls.length} {o : Occurrence}
    (h : o ∈ (after (calls.take i)).occurrences) :
    ∃ n < i, calls[n].field = o.field ∧ calls[n].signature = o.signature := by
  obtain ⟨c, hc, hsame⟩ := of_mem_after h
  obtain ⟨n, hn, rfl⟩ := exists_lt_of_mem_take hc
  exact ⟨n, hn, hsame⟩

/-- An occurrence is remembered once. -/
theorem eq_of_mem_after {o o' : Occurrence} (ho : o ∈ (after calls).occurrences)
    (ho' : o' ∈ (after calls).occurrences) (hfield : o.field = o'.field)
    (hsignature : o.signature = o'.signature) : o = o' := by
  induction calls using List.reverseRecOn with
  | nil => exact absurd ho List.not_mem_nil
  | append_singleton calls c ih =>
    rw [after_concat] at ho ho'
    cases hfind : (after calls).find? c.field c.signature with
    | some earlier =>
      have hsame : ((after calls).answer c).2 = after calls := by
        by_cases htypename : c.field = typenameField
        · rw [answer, htypename, resolve_typenameField]
        · rw [answer, resolve_of_find?_eq_some htypename hfind]
      rw [hsame] at ho ho'
      exact ih ho ho'
    | none =>
      -- The only new occurrence differs from all that are remembered.
      have hnew : ∀ p ∈ (after calls).occurrences, p.field = c.field → p.signature ≠ c.signature :=
        find?_eq_none_iff.1 hfind
      rcases of_mem_resolve ho with ho | ⟨-, rfl, -⟩ <;>
        rcases of_mem_resolve ho' with ho' | ⟨-, rfl, -⟩
      · exact ih ho ho'
      · exact absurd hsignature (hnew o ho hfield)
      · exact absurd hsignature.symm (hnew o' ho' hfield.symm)
      · rfl

/-- Every occurrence has a first call. -/
theorem exists_first_same (i : Fin calls.length) :
    ∃ n : Fin calls.length, calls[n].Same calls[i] ∧ ∀ h < n, ¬ calls[h].Same calls[n] := by
  obtain ⟨n, hn, hmin⟩ := (wellFounded_lt (α := Fin calls.length)).has_min
    {n | calls[n].Same calls[i]} ⟨i, rfl, rfl⟩
  exact ⟨n, hn, fun h hlt hh ↦ hmin h ⟨hh.1.trans hn.1, hh.2.trans hn.2⟩ hlt⟩

/-! ## The keys -/

section

variable (hcalls : ∀ c ∈ calls, c.field ≠ typenameField)
include hcalls

/-- A call is remembered with its key in all later calls. -/
theorem mem_after_of_lt {n m : Fin calls.length} (hnm : n < m) :
    ⟨calls[n].field, calls[n].signature, key calls n⟩
      ∈ (after (calls.take m)).occurrences := by
  have hfield : calls[n].field ≠ typenameField := hcalls _ (List.getElem_mem _)
  have hnext : ⟨calls[n].field, calls[n].signature, key calls n⟩
      ∈ (after (calls.take (n + 1))).occurrences := by
    rw [after_take_succ]
    exact mem_resolve_self hfield _ _ _
  exact foldl_take_of_le (P := (_ ∈ AliasResolver.occurrences ·))
    (fun r c h ↦ mem_resolve h c.field c.signature c.index) hnm hnext

theorem key_of_find?_eq_some {i : Fin calls.length} {o : Occurrence}
    (h : (after (calls.take i)).find? calls[i].field calls[i].signature = some o) :
    key calls i = o.key := by
  have hfield : calls[i].field ≠ typenameField := hcalls _ (List.getElem_mem _)
  rw [key, answer, resolve_of_find?_eq_some hfield h]

theorem key_of_find?_eq_none {i : Fin calls.length}
    (h : (after (calls.take i)).find? calls[i].field calls[i].signature = none) :
    key calls i = (after (calls.take i)).newKey calls[i].field calls[i].index := by
  have hfield : calls[i].field ≠ typenameField := hcalls _ (List.getElem_mem _)
  rw [key, answer, resolve_of_find?_eq_none hfield h]

/-- **The same occurrence gets the same key.** -/
theorem key_eq_of_same {i j : Fin calls.length} (h : calls[i].Same calls[j]) :
    key calls i = key calls j := by
  wlog hij : i < j generalizing i j
  · rcases lt_or_eq_of_le (not_lt.1 hij) with hji | rfl
    · exact (this h.symm hji).symm
    · rfl
  have hmem := mem_after_of_lt hcalls hij
  cases hfind : (after (calls.take j)).find? calls[j].field calls[j].signature with
  | some o =>
    obtain ⟨ho, hfield, hsignature⟩ := find?_eq_some hfind
    have heq := eq_of_mem_after hmem ho (h.1.trans hfield.symm) (h.2.trans hsignature.symm)
    rw [key_of_find?_eq_some hcalls hfind, ← heq]
  | none => exact absurd h.2 (find?_eq_none_iff.1 hfind _ hmem h.1)

/-- **The first occurrence of a field gets its bare name.** -/
theorem key_of_isFirst {i : Fin calls.length} (h : IsFirst calls i) :
    key calls i = calls[i].field := by
  have hmentions : ¬ (after (calls.take i)).mentions calls[i].field = true := by
    intro hmentions
    obtain ⟨o, ho, hfield⟩ := mentions_iff.1 hmentions
    obtain ⟨n, hn, hname, -⟩ := exists_lt_of_mem_after ho
    exact h n hn (hname.trans hfield)
  have hfind : (after (calls.take i)).find? calls[i].field calls[i].signature = none :=
    find?_eq_none_iff.2 fun o ho hfield ↦ absurd (mentions_iff.2 ⟨o, ho, hfield⟩) hmentions
  rw [key_of_find?_eq_none hcalls hfind, newKey, if_neg hmentions]

/-- A new occurrence takes an earlier key only if that is the bare name of its field, and its
field occurs for the first time. -/
theorem isFirst_of_key_eq {n m : Fin calls.length} (hnm : n < m)
    (hnew : ∀ h < m, ¬ calls[h].Same calls[m]) (hkey : key calls n = key calls m) :
    IsFirst calls m ∧ key calls n = calls[m].field := by
  have hfind : (after (calls.take m)).find? calls[m].field calls[m].signature = none := by
    refine find?_eq_none_iff.2 fun o ho hfield hsignature ↦ ?_
    obtain ⟨h, hh, hname, hargs⟩ := exists_lt_of_mem_after ho
    exact hnew h hh ⟨hname.trans hfield, hargs.trans hsignature⟩
  rw [key_of_find?_eq_none hcalls hfind] at hkey
  rcases newKey_eq_or (after (calls.take m)) calls[m].field calls[m].index
    with ⟨hbare, hmentions⟩ | ⟨-, hfresh⟩
  · refine ⟨fun h hlt hfield ↦ ?_, hkey.trans hbare⟩
    have := mentions_iff.2 ⟨_, mem_after_of_lt hcalls hlt, hfield⟩
    rw [hmentions] at this
    exact absurd this (by decide)
  · -- An alias is none of the keys handed out before.
    exact absurd (List.mem_map_of_mem (mem_after_of_lt hcalls hnm)) (hkey ▸ hfresh)

end

/-- **Two calls get the same key exactly if they are for the same occurrence, or one of them
captures the key of the other.**  The first call for a field gets its bare name. -/
theorem key_eq_iff (calls : List Call) (hcalls : ∀ c ∈ calls, c.field ≠ typenameField) :
    (∀ i j, key calls i = key calls j ↔
        calls[i].Same calls[j] ∨ Captures calls i j ∨ Captures calls j i)
      ∧ ∀ i, IsFirst calls i → key calls i = calls[i].field := by
  have hcaptures : ∀ {i j}, Captures calls i j → key calls i = key calls j := by
    rintro i j ⟨n, m, -, hn, hm, hfirst, hkey⟩
    calc key calls i = key calls n := (key_eq_of_same hcalls hn).symm
      _ = key calls m := by rw [hkey, key_of_isFirst hcalls hfirst]
      _ = key calls j := key_eq_of_same hcalls hm
  refine ⟨fun i j ↦ ⟨fun h ↦ ?_, ?_⟩, fun i ↦ key_of_isFirst hcalls⟩
  · obtain ⟨n, hn, hnfirst⟩ := exists_first_same i
    obtain ⟨m, hm, hmfirst⟩ := exists_first_same j
    have hkey : key calls n = key calls m := by
      rw [key_eq_of_same hcalls hn, h, key_eq_of_same hcalls hm]
    rcases lt_trichotomy n m with hnm | rfl | hmn
    · obtain ⟨hfirst, hbare⟩ := isFirst_of_key_eq hcalls hnm hmfirst hkey
      exact .inr (.inl ⟨n, m, hnm, hn, hm, hfirst, hbare⟩)
    · exact .inl ⟨hn.1.symm.trans hm.1, hn.2.symm.trans hm.2⟩
    · obtain ⟨hfirst, hbare⟩ := isFirst_of_key_eq hcalls hmn hnfirst hkey.symm
      exact .inr (.inr ⟨m, n, hmn, hm, hn, hfirst, hbare⟩)
  · rintro (hsame | hcapture | hcapture)
    · exact key_eq_of_same hcalls hsame
    · exact hcaptures hcapture
    · exact (hcaptures hcapture).symm

/-- Calls with a position used twice, a field that is named like an alias before it is handed out,
and one that is named so afterwards. -/
def crossedCalls : List Call := [
  ⟨"__alias_2", "", 0⟩, ⟨"user", "", 1⟩, ⟨"post", "", 2⟩, ⟨"user", "(id: 1)", 2⟩,
  ⟨"post", "(id: 1)", 2⟩, ⟨"__alias_4", "(id: 2)", 5⟩, ⟨"post", "(id: 1)", 6⟩]

theorem key_eq_iff_crossedCalls :
    (∀ c ∈ crossedCalls, c.field ≠ typenameField)
      ∧ (List.finRange _).map (key crossedCalls)
        = ["__alias_2", "user", "post", "__alias_3", "__alias_4", "__alias_4", "__alias_4"]
      ∧ (∀ i j, key crossedCalls i = key crossedCalls j ↔ crossedCalls[i].Same crossedCalls[j]
          ∨ Captures crossedCalls i j ∨ Captures crossedCalls j i)
      ∧ ∀ i, IsFirst crossedCalls i → key crossedCalls i = crossedCalls[i].field := by
  have hcalls : ∀ c ∈ crossedCalls, c.field ≠ typenameField := by decide
  exact ⟨hcalls, by decide, key_eq_iff crossedCalls hcalls⟩

/-- Different occurrences may share a key: the second `user` gets an alias, and the bare name of
the field that comes next is that alias. -/
theorem key_shared_with_bare_name :
    ¬ ∀ calls : List Call, (∀ c ∈ calls, c.field ≠ typenameField) →
      (∀ i j, key calls i = key calls j ↔ calls[i].Same calls[j])
        ∧ ∀ i, IsFirst calls i → key calls i = calls[i].field := by
  intro h
  have hshared := (h [⟨"user", "", 0⟩, ⟨"user", "(id: 1)", 1⟩, ⟨"__alias_1", "", 2⟩]
    (by decide)).1 1 2
  exact absurd (hshared.1 (by decide)) (by decide)

end AliasResolver
end Query
end QueryBuilder
