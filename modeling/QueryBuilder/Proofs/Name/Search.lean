import QueryBuilder.Proofs.Name.Collision

/-!
# Searches end

`Name.fresh` looks for a free candidate within a bound.  This file is about the same search without
one: a loop that tries one candidate after the other until one is free.  Nothing in the loop gets
smaller.  It ends because all candidates that it rejects are taken and no two of them agree.

## What is here

* `Search`, `Search.round` — a loop, and what one round of it comes to.  A loop that counts in
  numbers of limited size may run out of them.
* `Search.Rejects` — the rounds of a loop that reject a candidate, one after the other.
* `Search.Tried` — the invariant: after `k` such rounds the loop is in its `k`-th state, and the
  candidates before are taken.  One round keeps it (`Search.Tried.round`), so every run does
  (`Search.Rejects.tried`).
* `Search.le_length_of_rejects`, `Search.round_ne_overflows` — no run rejects more candidates than
  there are taken names, so it does not run out of numbers if there are as many.
* `Search.rejects_freshIndex` — the loop gets to the fresh name.
* `Scope.claim_takes_least` — the loop behind a claim: it ends, and the identifier that it keeps is
  the name itself or has the least number that is free.
-/

set_option autoImplicit false

namespace QueryBuilder
namespace Name

/-- **The fresh name is the first candidate that is free.** -/
theorem isLeast_freshIndex (taken : List String) {candidate : Nat → String}
    (hinj : Function.Injective candidate) :
    IsLeast {i | candidate i ∉ taken} (freshIndex taken candidate) := by
  refine ⟨fresh_not_mem hinj, fun i hi ↦ ?_⟩
  by_contra hlt
  exact hi (mem_of_lt_freshIndex hinj (Nat.lt_of_not_le hlt))

/-! ## Loops -/

/-- What a round of a search comes to. -/
inductive Round (σ : Type) where
  /-- The candidate is free, and the search ends. -/
  | accepts
  /-- The candidate is taken, and the search goes on from another state. -/
  | rejects (next : σ)
  /-- The candidate is taken, and the search has no number left. -/
  | overflows

/-- A loop that tries candidates.  Behind a state comes another one, or the loop runs out of
numbers. -/
structure Search (σ : Type) where
  candidate : σ → String
  next? : σ → Option σ

namespace Search

variable {σ : Type}

/-- One round of a search among taken names. -/
def round (search : Search σ) (taken : List String) (s : σ) : Round σ :=
  if search.candidate s ∈ taken then
    match search.next? s with
    | some next => .rejects next
    | none => .overflows
  else .accepts

/-- From the state `start`, so many rounds reject a candidate and lead to another state. -/
inductive Rejects (search : Search σ) (taken : List String) (start : σ) : Nat → σ → Prop
  | none : Rejects search taken start 0 start
  | more {k : Nat} {s next : σ} (h : Rejects search taken start k s)
      (hround : search.round taken s = .rejects next) : Rejects search taken start (k + 1) next

variable {search : Search σ} {taken : List String} {s next : σ}

theorem round_eq_accepts_iff : search.round taken s = .accepts ↔ search.candidate s ∉ taken := by
  rw [round]
  split_ifs with htaken
  · cases search.next? s <;> simp [htaken]
  · simp [htaken]

theorem round_eq_rejects_iff : search.round taken s = .rejects next ↔
    search.candidate s ∈ taken ∧ search.next? s = some next := by
  rw [round]
  split_ifs with htaken
  · cases search.next? s <;> simp [htaken]
  · simp [htaken]

theorem round_eq_overflows_iff : search.round taken s = .overflows ↔
    search.candidate s ∈ taken ∧ search.next? s = none := by
  rw [round]
  split_ifs with htaken
  · cases search.next? s <;> simp [htaken]
  · simp [htaken]

/-! ## What a run keeps -/

/-- The loop goes through these states, at least through the first `n` and the one behind them. -/
structure Counts (search : Search σ) (states : Nat → σ) (n : Nat) : Prop where
  eq_succ : ∀ i next, search.next? (states i) = some next → next = states (i + 1)
  isSome : ∀ i < n, (search.next? (states i)).isSome

theorem Counts.next?_eq {states : Nat → σ} {n : Nat} (h : search.Counts states n) {i : Nat}
    (hi : i < n) : search.next? (states i) = some (states (i + 1)) := by
  obtain ⟨next, hnext⟩ := Option.isSome_iff_exists.1 (h.isSome i hi)
  rw [hnext, h.eq_succ i next hnext]

/-- The loop is in its `k`-th state, and the candidates before are taken. -/
structure Tried (search : Search σ) (taken : List String) (states : Nat → σ) (k : Nat) (s : σ) :
    Prop where
  eq : s = states k
  mem : ∀ i < k, search.candidate (states i) ∈ taken

/-- At the start nothing has been tried. -/
theorem Tried.zero (states : Nat → σ) : search.Tried taken states 0 (states 0) :=
  ⟨rfl, fun i hi ↦ absurd hi (Nat.not_lt_zero i)⟩

section

variable {states : Nat → σ} {n k : Nat}

/-- A candidate that is taken has been tried as well. -/
theorem Tried.mem_succ (h : search.Tried taken states k s) (hs : search.candidate s ∈ taken) :
    ∀ i < k + 1, search.candidate (states i) ∈ taken := by
  intro i hi
  rcases Nat.lt_succ_iff_lt_or_eq.1 hi with hi | rfl
  · exact h.mem i hi
  · exact h.eq ▸ hs

/-- A round that rejects a candidate has tried one more. -/
theorem Tried.round (hcounts : search.Counts states n) (h : search.Tried taken states k s)
    (hround : search.round taken s = .rejects next) :
    search.Tried taken states (k + 1) next := by
  obtain ⟨hs, hnext⟩ := round_eq_rejects_iff.1 hround
  refine ⟨?_, h.mem_succ hs⟩
  rw [h.eq] at hnext
  exact hcounts.eq_succ k next hnext

/-- **All that a run rejects is taken.** -/
theorem Rejects.tried (hcounts : search.Counts states n)
    (h : search.Rejects taken (states 0) k s) : search.Tried taken states k s := by
  induction h with
  | none => exact .zero states
  | more _ hround ih => exact ih.round hcounts hround

end

/-! ## Where a run gets -/

section

variable {states : Nat → σ} {seen : List String} (hcounts : search.Counts states seen.length)
  (hinj : Function.Injective fun i ↦ search.candidate (states i)) (hsub : taken ⊆ seen)
include hcounts hinj hsub

/-- **No more candidates are rejected than names are taken.** -/
theorem le_length_of_rejects {k : Nat} (h : search.Rejects taken (states 0) k s) :
    k ≤ seen.length :=
  le_length_of_forall_mem hinj fun i hi ↦ hsub ((h.tried hcounts).mem i hi)

/-- **The loop does not run out of numbers** if there is one for every taken name. -/
theorem round_ne_overflows {k : Nat} (h : search.Rejects taken (states 0) k s) :
    search.round taken s ≠ .overflows := by
  intro hround
  have htried := h.tried hcounts
  obtain ⟨hs, hnone⟩ := round_eq_overflows_iff.1 hround
  have hk : k + 1 ≤ seen.length :=
    le_length_of_forall_mem hinj fun i hi ↦ hsub (htried.mem_succ hs i hi)
  have hsome := hcounts.isSome k hk
  rw [← htried.eq, hnone] at hsome
  cases hsome

/-- **The loop gets to the fresh name**, and ends there. -/
theorem rejects_freshIndex :
    search.Rejects taken (states 0) (freshIndex taken fun i ↦ search.candidate (states i))
        (states (freshIndex taken fun i ↦ search.candidate (states i)))
      ∧ search.round taken (states (freshIndex taken fun i ↦ search.candidate (states i)))
        = .accepts := by
  refine ⟨?_, round_eq_accepts_iff.2 (fresh_not_mem hinj)⟩
  have hmem {i : Nat} (hi : i < freshIndex taken fun i ↦ search.candidate (states i)) :
      search.candidate (states i) ∈ taken :=
    mem_of_lt_freshIndex hinj hi
  have hle := le_length_of_forall_mem hinj fun i hi ↦ hsub (hmem hi)
  -- By induction on how far the loop gets: while candidates are taken, it goes on.
  generalize freshIndex taken (fun i ↦ search.candidate (states i)) = m at hmem hle
  induction m with
  | zero => exact .none
  | succ m ih =>
    have hlast := Nat.lt_succ_self m
    have hbefore := ih (fun hi ↦ hmem (Nat.lt_succ_of_lt hi)) (Nat.le_of_succ_le hle)
    exact .more hbefore (round_eq_rejects_iff.2 ⟨hmem hlast, hcounts.next?_eq hle⟩)

end

end Search

/-! ## Claims -/

namespace Scope

/-- An identifier with a number behind it. -/
def suffixed (convention : Case) (base : String) (n : Nat) : String :=
  base ++ separator convention ++ toString n

/-- The loop behind a claim.  Its state is a candidate and the number that comes next; the numbers
go on without end. -/
def search (convention : Case) (base : String) : Search (String × Nat) where
  candidate s := s.1
  next? s := some (suffixed convention base s.2, s.2 + 1)

variable {convention : Case} {base : String}

/-- The states of the loop are the candidates, each with the next number. -/
theorem counts_search (convention : Case) (base : String) (n : Nat) :
    (search convention base).Counts (fun i ↦ (candidate convention base i, i + 2)) n where
  eq_succ _ _ hnext := (Option.some.inj hnext).symm
  isSome _ _ := rfl

/-- A name that is taken gets the least number that is free. -/
theorem exists_isLeast_suffixed {scope : Scope} {name : String}
    (h : scope.convention.apply name ∈ scope.taken) :
    ∃ n, IsLeast {n | 2 ≤ n ∧
        suffixed scope.convention (scope.convention.apply name) n ∉ scope.taken} n
      ∧ scope.free name = suffixed scope.convention (scope.convention.apply name) n := by
  have hleast := isLeast_freshIndex scope.taken
    (candidate_injective scope.convention (scope.convention.apply name))
  rw [free, fresh]
  generalize freshIndex scope.taken
    (candidate scope.convention (scope.convention.apply name)) = m at hleast ⊢
  cases m with
  | zero => exact absurd h hleast.1
  | succ m =>
    refine ⟨m + 2, ⟨⟨Nat.le_add_left 2 m, hleast.1⟩, ?_⟩, rfl⟩
    rintro n ⟨htwo, hn⟩
    obtain ⟨i, rfl⟩ := Nat.exists_eq_add_of_le' htwo
    have hle : m + 1 ≤ i + 1 := hleast.2 hn
    exact Nat.succ_le_succ hle

/-- **A claim takes the least identifier that is free.**  The loop that looks for it rejects at most
as many candidates as there are taken names, and it ends.  What it keeps was free: the name itself
in the scope's convention if that is free, and otherwise the name with the least free number from
two on.  The claim hands this out, spelled so that it is no keyword, and takes this and nothing
else. -/
theorem claim_takes_least (scope : Scope) (name : String) :
    let base := scope.convention.apply name
    let loop := search scope.convention base
    (∀ k s, loop.Rejects scope.taken (base, 2) k s → k ≤ scope.taken.toFinset.card)
      ∧ (∃ k, loop.Rejects scope.taken (base, 2) k (scope.free name, k + 2)
        ∧ loop.round scope.taken (scope.free name, k + 2) = .accepts)
      ∧ scope.free name ∉ scope.taken
      ∧ (base ∉ scope.taken → scope.free name = base)
      ∧ (base ∈ scope.taken → ∃ n,
        IsLeast {n | 2 ≤ n ∧ suffixed scope.convention base n ∉ scope.taken} n
          ∧ scope.free name = suffixed scope.convention base n)
      ∧ (scope.claim name).1 = escape (scope.free name)
      ∧ (scope.claim name).2.taken.toFinset = insert (scope.free name) scope.taken.toFinset := by
  intro base loop
  have hinj := candidate_injective scope.convention base
  have hcounts := counts_search scope.convention base scope.taken.dedup.length
  have hsub : scope.taken ⊆ scope.taken.dedup := List.subset_dedup _
  refine ⟨fun k s hrun ↦ ?_, ⟨_, Search.rejects_freshIndex hcounts hinj hsub⟩,
    free_not_mem scope name, fun hbase ↦ fresh_eq_of_not_mem hbase, exists_isLeast_suffixed, rfl,
    ?_⟩
  · rw [List.card_toFinset]
    exact Search.le_length_of_rejects hcounts hinj hsub hrun
  · exact List.toFinset_cons

example : (ofReserved .snake ["user", "user_3"]).free "User" = "user_2" := by decide

end Scope
end Name
end QueryBuilder
