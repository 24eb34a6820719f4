import QueryBuilder.Proofs.Name.Collision

/-!
# Claims of a list of names

A namespace of generated code is filled by claiming a list of names from one scope, one after the
other (`Scope.claimAll`).

* `Scope.freeAll` — the identifiers that the names get, before keywords are escaped.  They are new
  (`freeAll_not_mem`), no two of them agree (`nodup_freeAll`), and afterwards they are in use
  (`taken_claimAll`).
* `Scope.claimAll_append` — claims in two goes are claims in one go.
* `Scope.eq_base_of_keyword` — a keyword is only ever handed out for itself, because every other
  candidate for a name ends in a digit.
* `Scope.idents_claimAll_of_not_keyword` — so claims of other names come back unescaped.
-/

set_option autoImplicit false

namespace QueryBuilder
namespace Name
namespace Scope

/-- The identifiers that a list of names gets, before keywords are escaped. -/
def freeAll (scope : Scope) : List String → List String
  | [] => []
  | name :: rest => scope.free name :: freeAll (scope.reserve (scope.free name)) rest

variable {scope : Scope} {names : List String}

theorem claimAll_cons (scope : Scope) (name : String) (rest : List String) :
    scope.claimAll (name :: rest) = ((scope.claim name).1 :: ((scope.claim name).2.claimAll rest).1,
      ((scope.claim name).2.claimAll rest).2) :=
  rfl

theorem idents_claimAll (scope : Scope) (names : List String) :
    (scope.claimAll names).1 = (scope.freeAll names).map escape := by
  induction names generalizing scope with
  | nil => rfl
  | cons name rest ih => rw [claimAll_cons, freeAll, List.map_cons, claim, ih]

theorem taken_claimAll (scope : Scope) (names : List String) :
    (scope.claimAll names).2.taken = (scope.freeAll names).reverse ++ scope.taken := by
  induction names generalizing scope with
  | nil => rfl
  | cons name rest ih =>
    rw [claimAll_cons, freeAll, List.reverse_cons, List.append_assoc]
    exact ih _

theorem claimAll_append (scope : Scope) (names more : List String) :
    scope.claimAll (names ++ more)
      = ((scope.claimAll names).1 ++ ((scope.claimAll names).2.claimAll more).1,
        ((scope.claimAll names).2.claimAll more).2) := by
  induction names generalizing scope with
  | nil => rfl
  | cons name rest ih =>
    rw [List.cons_append, claimAll_cons, claimAll_cons, ih, List.cons_append]

theorem freeAll_not_mem {x : String} (hx : x ∈ scope.freeAll names) : x ∉ scope.taken := by
  induction names generalizing scope with
  | nil => exact absurd hx List.not_mem_nil
  | cons name rest ih =>
    rcases List.mem_cons.1 hx with rfl | hx
    · exact free_not_mem scope name
    · exact fun h ↦ ih hx (List.mem_cons_of_mem _ h)

/-- **No two names get one identifier.** -/
theorem nodup_freeAll : (scope.freeAll names).Nodup := by
  induction names generalizing scope with
  | nil => exact List.nodup_nil
  | cons name rest ih =>
    exact List.nodup_cons.2 ⟨fun h ↦ freeAll_not_mem h List.mem_cons_self, ih⟩

/-- What a name gets is one of its candidates. -/
theorem exists_candidate_of_mem_freeAll {x : String} (hx : x ∈ scope.freeAll names) :
    ∃ name ∈ names, ∃ n,
      x = candidate scope.convention (scope.convention.apply name) n := by
  induction names generalizing scope with
  | nil => exact absurd hx List.not_mem_nil
  | cons name rest ih =>
    rcases List.mem_cons.1 hx with rfl | hx
    · exact ⟨name, List.mem_cons_self, _, rfl⟩
    · obtain ⟨name', hname, n, hn⟩ := ih hx
      exact ⟨name', List.mem_cons_of_mem _ hname, n, hn⟩

/-- A keyword is a candidate for nothing but itself. -/
theorem eq_base_of_keyword {convention : Case} {base : String} {n : Nat}
    (h : candidate convention base n ∈ plainKeywords ++ rawKeywords) :
    candidate convention base n = base := by
  cases n with
  | zero => rfl
  | succ n =>
    have hdigit := (endsInDigit_of_keyword h).1
    rw [candidate, endsInDigit_append_toString] at hdigit
    exact absurd hdigit (by decide)

/-- Names that are no keywords get no keywords. -/
theorem not_keyword_of_mem_freeAll
    (h : ∀ name ∈ names, scope.convention.apply name ∉ plainKeywords ++ rawKeywords) {x : String}
    (hx : x ∈ scope.freeAll names) : x ∉ plainKeywords ++ rawKeywords := by
  obtain ⟨name, hname, n, rfl⟩ := exists_candidate_of_mem_freeAll hx
  exact fun hmem ↦ h name hname (eq_base_of_keyword hmem ▸ hmem)

/-- Claims of what is no keyword are handed out as the scope keeps them. -/
theorem idents_claimAll_of_not_keyword
    (h : ∀ name ∈ names, scope.convention.apply name ∉ plainKeywords ++ rawKeywords) :
    (scope.claimAll names).1 = scope.freeAll names := by
  have hescape : ∀ x ∈ scope.freeAll names, escape x = x := by
    intro x hx
    have hkeyword := not_keyword_of_mem_freeAll h hx
    rw [List.mem_append, not_or] at hkeyword
    exact escape_of_not_mem hkeyword.1 hkeyword.2
  rw [idents_claimAll, List.map_congr_left hescape, List.map_id']

@[simp]
theorem convention_claimAll (scope : Scope) (names : List String) :
    (scope.claimAll names).2.convention = scope.convention := by
  induction names generalizing scope with
  | nil => rfl
  | cons name rest ih => exact ih _

end Scope
end Name
end QueryBuilder
