import Mathlib.Data.List.Forall2

/-!
# When a computation that may fail succeeds

A chain of steps succeeds exactly if every step does, and a traversal exactly if every entry of the
list does.  With these facts a function into `Except` is read as a relation between what goes in and
what comes out, and so is a filter that keeps the results there are.
-/

set_option autoImplicit false

namespace QueryBuilder

variable {ε α β : Type}

theorem bind_eq_ok_iff {x : Except ε α} {f : α → Except ε β} {b : β} :
    (x >>= f) = .ok b ↔ ∃ a, x = .ok a ∧ f a = .ok b := by
  cases x with
  | error e => simp [bind, Except.bind]
  | ok a => simp [bind, Except.bind]

theorem map_eq_ok_iff {x : Except ε α} {f : α → β} {b : β} :
    (f <$> x) = .ok b ↔ ∃ a, x = .ok a ∧ f a = b := by
  cases x with
  | error e => simp [Functor.map, Except.map]
  | ok a => simp [Functor.map, Except.map]

/-- What is made of a result, if it is known which results there are. -/
theorem map_eq_ok_iff_of_iff {x : Except ε α} {f : α → β} {b : β} {p : Prop} {r : α → Prop}
    (h : ∀ a, x = .ok a ↔ p ∧ r a) : (f <$> x) = .ok b ↔ p ∧ ∃ a, f a = b ∧ r a := by
  simp only [map_eq_ok_iff, h]
  constructor
  · rintro ⟨a, ⟨hp, ha⟩, rfl⟩
    exact ⟨hp, a, rfl, ha⟩
  · rintro ⟨hp, a, rfl, ha⟩
    exact ⟨a, ⟨hp, ha⟩, rfl⟩

theorem toOption_eq_some_iff {x : Except ε α} {a : α} : x.toOption = some a ↔ x = .ok a := by
  cases x with
  | error e => simp [Except.toOption]
  | ok b => simp [Except.toOption]

/-- Every entry of the first list has a partner in the second. -/
theorem exists_of_forall₂ {R : α → β → Prop} {l : List α} {m : List β} (h : List.Forall₂ R l m)
    {a : α} (ha : a ∈ l) : ∃ b, R a b := by
  induction h with
  | nil => cases ha
  | cons hab _ ih =>
    rcases List.mem_cons.1 ha with rfl | ha
    · exact ⟨_, hab⟩
    · exact ih ha

theorem mapM_eq_ok_iff {f : α → Except ε β} {l : List α} {m : List β} :
    l.mapM f = .ok m ↔ List.Forall₂ (fun a b ↦ f a = .ok b) l m := by
  induction l generalizing m with
  | nil =>
    rw [List.mapM_nil, List.forall₂_nil_left_iff]
    exact ⟨fun h ↦ (Except.ok.inj h).symm, fun h ↦ h ▸ rfl⟩
  | cons a l ih =>
    rw [List.mapM_cons, bind_eq_ok_iff, List.forall₂_cons_left_iff]
    refine exists_congr fun b ↦ ?_
    rw [bind_eq_ok_iff]
    constructor
    · rintro ⟨ha, m', hm', hm⟩
      exact ⟨m', ha, ih.1 hm', (Except.ok.inj hm).symm⟩
    · rintro ⟨m', ha, hm', rfl⟩
      exact ⟨ha, m', ih.2 hm', rfl⟩

/-- A filter that keeps what has a result finds the result of each. -/
theorem forall₂_filterMap {f : α → Option β} {p : α → Bool} {l : List α}
    (h : ∀ a ∈ l, (f a).isSome = p a) :
    List.Forall₂ (fun a b ↦ f a = some b) (l.filter p) (l.filterMap f) := by
  induction l with
  | nil => exact .nil
  | cons a rest ih =>
    have hrest := ih fun b hb ↦ h b (List.mem_cons_of_mem _ hb)
    have ha := h a List.mem_cons_self
    cases hf : f a with
    | none =>
      rw [hf] at ha
      rw [List.filterMap_cons_none hf, List.filter_cons_of_neg (ha ▸ Bool.false_ne_true)]
      exact hrest
    | some b =>
      rw [hf] at ha
      rw [List.filterMap_cons_some hf, List.filter_cons_of_pos ha.symm]
      exact .cons hf hrest

end QueryBuilder
