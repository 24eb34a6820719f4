import Mathlib.Data.List.Basic

/-!
# Runs of steps

A run performs a list of steps one after the other.  What a step keeps holds at every later point
of the run.
-/

set_option autoImplicit false

namespace QueryBuilder

variable {σ α : Type} {step : σ → α → σ} {s : σ} {l : List α}

/-- The state after one step more. -/
theorem foldl_take_succ (i : Fin l.length) :
    (l.take (i + 1)).foldl step s = step ((l.take i).foldl step s) l[i] := by
  rw [Fin.getElem_fin, ← List.take_append_getElem i.isLt, List.foldl_concat]

/-- What every step keeps still holds later. -/
theorem foldl_take_of_le {P : σ → Prop} (hstep : ∀ s a, P s → P (step s a)) {i j : Nat}
    (hij : i ≤ j) (h : P ((l.take i).foldl step s)) : P ((l.take j).foldl step s) := by
  have hsplit : l.take j = l.take i ++ (l.drop i).take (j - i) := by
    rw [← List.take_add, Nat.add_sub_cancel' hij]
  rw [hsplit, List.foldl_append]
  exact List.foldlRecOn _ step h fun s hs a _ ↦ hstep s a hs

/-- What is in the part of a list before a position stands at an earlier position. -/
theorem exists_lt_of_mem_take {i : Fin l.length} {a : α} (h : a ∈ l.take i) :
    ∃ n < i, l[n] = a := by
  obtain ⟨n, hn, rfl⟩ := List.mem_take_iff_getElem.1 h
  have hni : n < i := Nat.lt_of_lt_of_le hn (Nat.min_le_left _ _)
  exact ⟨⟨n, Nat.lt_trans hni i.isLt⟩, hni, rfl⟩

end QueryBuilder
