import Mathlib.Data.List.Induction
import QueryBuilder.Code.Aliases
import QueryBuilder.Path

/-!
# Lists without repetitions

Several lists of a run hold each of their entries once, where it first appeared.  They are collected
from the front: an entry is added unless one like it is there.

* `IsDistinct` — what such a list is.
* `isDistinct_foldl` — collecting gives it.
* `isDistinct_distinct`, `Path.isDistinct_distinct` — the sources of the aliases unit and the files
  of overrides.
-/

set_option autoImplicit false

namespace QueryBuilder

/-- The second list has one of the entries of the first that are the same, namely the first of
them, and its entries are in the order of these appearances. -/
structure IsDistinct {α : Type} (same : α → α → Bool) (l d : List α) : Prop where
  covers : ∀ a ∈ l, ∃ b ∈ d, same b a = true
  once : d.Pairwise fun a b ↦ same a b = false
  first : ∀ a ∈ d, ∃ front back, l = front ++ a :: back ∧ ∀ b ∈ front, same b a = false
  order : d.Pairwise fun a b ↦ l.findIdx (same · a) < l.findIdx (same · b)

namespace IsDistinct

variable {α : Type} {same : α → α → Bool} {l d : List α} {a : α}

theorem nil : IsDistinct same [] [] where
  covers _ h := absurd h List.not_mem_nil
  once := .nil
  first _ h := absurd h List.not_mem_nil
  order := .nil

theorem subset (h : IsDistinct same l d) : d ⊆ l := by
  intro a ha
  obtain ⟨front, back, rfl, -⟩ := h.first a ha
  exact List.mem_append_right _ List.mem_cons_self

/-- The first appearance of an entry stays where it is when the list grows. -/
theorem findIdx_append (hrefl : ∀ a, same a a = true) (h : IsDistinct same l d) (ha : a ∈ d)
    (more : List α) : (l ++ more).findIdx (same · a) = l.findIdx (same · a)
      ∧ l.findIdx (same · a) < l.length := by
  have hlt : l.findIdx (same · a) < l.length :=
    List.findIdx_lt_length_of_exists ⟨a, h.subset ha, hrefl a⟩
  rw [List.findIdx_append, if_pos hlt]
  exact ⟨rfl, hlt⟩

theorem first_append (h : IsDistinct same l d) (ha : a ∈ d) (more : List α) :
    ∃ front back, l ++ more = front ++ a :: back ∧ ∀ b ∈ front, same b a = false := by
  obtain ⟨front, back, rfl, hfront⟩ := h.first a ha
  exact ⟨front, back ++ more, List.append_assoc .., hfront⟩

theorem order_append (hrefl : ∀ a, same a a = true) (h : IsDistinct same l d) (more : List α) :
    d.Pairwise fun a b ↦ (l ++ more).findIdx (same · a) < (l ++ more).findIdx (same · b) := by
  refine h.order.imp_of_mem fun {b c} hb hc hlt ↦ ?_
  rw [(h.findIdx_append hrefl hb more).1, (h.findIdx_append hrefl hc more).1]
  exact hlt

/-- An entry that is there already changes nothing. -/
theorem skip (hrefl : ∀ a, same a a = true) (h : IsDistinct same l d)
    (hseen : ∃ b ∈ d, same b a = true) : IsDistinct same (l ++ [a]) d where
  covers := List.forall_mem_append.2 ⟨h.covers, List.forall_mem_singleton.2 hseen⟩
  once := h.once
  first _ hb := h.first_append hb [a]
  order := h.order_append hrefl [a]

/-- An entry that is not there yet is added. -/
theorem snoc (hrefl : ∀ a, same a a = true)
    (htrans : ∀ a b c, same a b = true → same b c = true → same a c = true)
    (h : IsDistinct same l d) (hnew : ∀ b ∈ d, same b a = false) :
    IsDistinct same (l ++ [a]) (d ++ [a]) := by
  -- What is like the new entry would have been collected as one like it.
  have hfresh : ∀ b ∈ l, same b a = false := by
    intro b hb
    rw [Bool.eq_false_iff]
    intro hba
    obtain ⟨c, hc, hcb⟩ := h.covers b hb
    exact Bool.eq_false_iff.1 (hnew c hc) (htrans c b a hcb hba)
  refine ⟨fun b hb ↦ ?_, ?_, fun b hb ↦ ?_, ?_⟩
  · rcases List.mem_append.1 hb with hb | hb
    · obtain ⟨c, hc, hcb⟩ := h.covers b hb
      exact ⟨c, List.mem_append_left _ hc, hcb⟩
    · exact ⟨a, List.mem_concat_self, List.mem_singleton.1 hb ▸ hrefl a⟩
  · exact List.pairwise_append.2
      ⟨h.once, List.pairwise_singleton _ _, fun b hb _ hc ↦ List.mem_singleton.1 hc ▸ hnew b hb⟩
  · rcases List.mem_append.1 hb with hb | hb
    · exact h.first_append hb [a]
    · obtain rfl := List.mem_singleton.1 hb
      exact ⟨l, [], rfl, hfresh⟩
  · refine List.pairwise_append.2 ⟨h.order_append hrefl [a], List.pairwise_singleton _ _, ?_⟩
    intro b hb c hc
    obtain rfl := List.mem_singleton.1 hc
    have hlast : (l ++ [c]).findIdx (same · c) = l.length := by
      have hnone : l.findIdx (same · c) = l.length :=
        List.findIdx_eq_length_of_false hfresh
      rw [List.findIdx_append, hnone, if_neg (Nat.lt_irrefl _)]
      simp [List.findIdx_cons, hrefl c]
    obtain ⟨hsame, hlt⟩ := h.findIdx_append hrefl hb [c]
    rw [hsame, hlast]
    exact hlt

end IsDistinct

/-- **Collecting from the front gives a list without repetitions.** -/
theorem isDistinct_foldl {α : Type} {same : α → α → Bool} (hrefl : ∀ a, same a a = true)
    (htrans : ∀ a b c, same a b = true → same b c = true → same a c = true) (l : List α) :
    IsDistinct same l
      (l.foldl (fun seen a ↦ if seen.any (same · a) then seen else seen ++ [a]) []) := by
  induction l using List.reverseRecOn with
  | nil => exact .nil
  | append_singleton l a ih =>
    rw [List.foldl_append, List.foldl_cons, List.foldl_nil]
    split_ifs with hseen
    · exact ih.skip hrefl (List.any_eq_true.1 hseen)
    · rw [Bool.not_eq_true, List.any_eq_false] at hseen
      exact ih.snoc hrefl htrans fun b hb ↦ Bool.eq_false_iff.2 (hseen b hb)

namespace Path

theorem same_refl (p : Path) : p.same p = true :=
  beq_iff_eq.2 rfl

theorem same_trans (p q r : Path) (h : p.same q = true) (h' : q.same r = true) :
    p.same r = true :=
  beq_iff_eq.2 ((beq_iff_eq.1 h).trans (beq_iff_eq.1 h'))

/-- **Paths are distinguished by their steps**, and the first spelling of each is kept. -/
theorem isDistinct_distinct (paths : List Path) : IsDistinct same paths (distinct paths) :=
  isDistinct_foldl same_refl same_trans paths

end Path

namespace Code.Aliases

/-- **Texts are distinguished as they are.** -/
theorem isDistinct_distinct (texts : List String) :
    IsDistinct (· == ·) texts (distinct texts) := by
  have hcontains (seen : List String) (text : String) :
      seen.contains text = seen.any (· == text) := by
    rw [List.contains_eq_any_beq]
    exact congrArg seen.any (funext fun _ ↦ Bool.beq_comm)
  have htrans (a b c : String) (h : (a == b) = true) (h' : (b == c) = true) : (a == c) = true :=
    beq_iff_eq.2 ((beq_iff_eq.1 h).trans (beq_iff_eq.1 h'))
  have hfold := isDistinct_foldl (fun a ↦ beq_iff_eq.2 rfl) htrans texts
  simpa only [distinct, hcontains] using hfold

end Code.Aliases

end QueryBuilder
