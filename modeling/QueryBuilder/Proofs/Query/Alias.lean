import QueryBuilder.Proofs.Name.Fresh
import QueryBuilder.Query.Alias

/-!
# The keys a resolver hands out

* Generated aliases have the shape of aliases (`isAlias_aliasKey`), and different numbers give
  different ones (`aliasKey_injective`).
* `AliasResolver.resolve_of_find?_eq_none` — a new occurrence of a field gets `newKey`, and is
  remembered.
* `AliasResolver.newKey_eq_or` — that key is the bare name if the field has not occurred before,
  and otherwise an alias that no other occurrence has.
-/

set_option autoImplicit false

namespace QueryBuilder
namespace Query

/-! ## The shape of aliases -/

theorem toList_aliasKey (index : Nat) :
    (aliasKey index).toList = aliasStem.toList ++ Nat.toDigits 10 index := by
  rw [aliasKey, String.toList_append]
  exact congrArg _ Nat.toList_repr

theorem aliasKey_injective : Function.Injective aliasKey := by
  intro i j h
  have hdigits : Nat.toDigits 10 i = Nat.toDigits 10 j := by
    have := congrArg String.toList h
    rw [toList_aliasKey, toList_aliasKey] at this
    exact List.append_cancel_left this
  rw [← Nat.ofDigitChars_ten_toDigits (n := i), hdigits, Nat.ofDigitChars_ten_toDigits]

theorem aliasKey_add_injective (index : Nat) : Function.Injective fun i ↦ aliasKey (index + i) :=
  fun _ _ h ↦ Nat.add_left_cancel (aliasKey_injective h)

theorem isAlias_aliasKey (index : Nat) : isAlias (aliasKey index) = true := by
  have hdrop : (aliasKey index).toList.drop aliasStem.length = Nat.toDigits 10 index := by
    rw [toList_aliasKey]
    exact List.drop_left
  rw [isAlias, hdrop, Bool.and_eq_true]
  refine ⟨?_, ?_⟩
  · rw [toList_aliasKey, List.isPrefixOf_iff_prefix]
    exact List.prefix_append _ _
  · split
    · rename_i hnil
      exact absurd hnil Nat.toDigits_ne_nil
    · rw [List.all_eq_true]
      exact fun c hc ↦ Nat.isDigit_of_mem_toDigits (by decide) (by decide) hc

theorem isAlias_typenameField : isAlias typenameField = false := by decide

theorem aliasKey_ne {index : Nat} {name : String} (h : isAlias name = false) :
    aliasKey index ≠ name := by
  rintro rfl
  rw [isAlias_aliasKey] at h
  exact absurd h (by decide)

/-! ## Resolving -/

namespace AliasResolver

theorem resolve_typenameField (r : AliasResolver) (signature : String) (index : Nat) :
    r.resolve typenameField signature index = (typenameField, r) := by
  rw [resolve, if_pos rfl]

theorem find?_eq_some {r : AliasResolver} {field signature : String} {o : Occurrence}
    (h : r.find? field signature = some o) :
    o ∈ r.occurrences ∧ o.field = field ∧ o.signature = signature := by
  refine ⟨List.mem_of_find?_eq_some h, ?_⟩
  simpa using List.find?_some h

theorem find?_eq_none_iff {r : AliasResolver} {field signature : String} :
    r.find? field signature = none ↔
      ∀ o ∈ r.occurrences, o.field = field → o.signature ≠ signature := by
  rw [find?, List.find?_eq_none]
  simp

theorem mentions_iff {r : AliasResolver} {field : String} :
    r.mentions field = true ↔ ∃ o ∈ r.occurrences, o.field = field := by
  rw [mentions, List.any_eq_true]
  simp

/-- An occurrence with an earlier signature gets the earlier key. -/
theorem resolve_of_find?_eq_some {r : AliasResolver} {field signature : String} {index : Nat}
    {o : Occurrence} (hfield : field ≠ typenameField) (h : r.find? field signature = some o) :
    r.resolve field signature index = (o.key, r) := by
  rw [resolve, if_neg hfield]
  simp only [h]

/-- Any other occurrence gets a new key and is remembered. -/
theorem resolve_of_find?_eq_none {r : AliasResolver} {field signature : String} {index : Nat}
    (hfield : field ≠ typenameField) (h : r.find? field signature = none) :
    r.resolve field signature index = (r.newKey field index,
      ⟨r.occurrences ++ [⟨field, signature, r.newKey field index⟩]⟩) := by
  rw [resolve, if_neg hfield]
  simp only [h]

/-- **A new key is the bare name of a field that has not occurred, or an unused alias.** -/
theorem newKey_eq_or (r : AliasResolver) (field : String) (index : Nat) :
    (r.newKey field index = field ∧ r.mentions field = false)
      ∨ isAlias (r.newKey field index) = true ∧ r.newKey field index ∉ r.keys := by
  rw [newKey]
  cases hmentions : r.mentions field with
  | false => exact .inl ⟨rfl, rfl⟩
  | true =>
    exact .inr ⟨isAlias_aliasKey _, Name.fresh_not_mem (aliasKey_add_injective index)⟩

/-- **Everything that resolving can do.** -/
theorem resolve_cases (r : AliasResolver) (field signature : String) (index : Nat) :
    (field = typenameField ∧ r.resolve field signature index = (field, r))
      ∨ (field ≠ typenameField ∧ ∃ o ∈ r.occurrences, o.field = field ∧ o.signature = signature
          ∧ r.resolve field signature index = (o.key, r))
      ∨ (field ≠ typenameField ∧ r.resolve field signature index = (r.newKey field index,
          ⟨r.occurrences ++ [⟨field, signature, r.newKey field index⟩]⟩)) := by
  by_cases hfield : field = typenameField
  · subst hfield
    exact .inl ⟨rfl, resolve_typenameField r signature index⟩
  · cases hfind : r.find? field signature with
    | some o =>
      obtain ⟨ho, hname, hsignature⟩ := find?_eq_some hfind
      exact .inr (.inl ⟨hfield, o, ho, hname, hsignature, resolve_of_find?_eq_some hfield hfind⟩)
    | none => exact .inr (.inr ⟨hfield, resolve_of_find?_eq_none hfield hfind⟩)

/-- What is remembered after resolving was remembered before, or is a new occurrence. -/
theorem of_mem_resolve {r : AliasResolver} {field signature : String} {index : Nat}
    {o : Occurrence} (h : o ∈ (r.resolve field signature index).2.occurrences) :
    o ∈ r.occurrences ∨ field ≠ typenameField
      ∧ o = ⟨field, signature, (r.resolve field signature index).1⟩
      ∧ (r.resolve field signature index).1 = r.newKey field index := by
  rcases resolve_cases r field signature index with ⟨-, hr⟩ | ⟨-, _, -, -, -, hr⟩ | ⟨hfield, hr⟩
  · rw [hr] at h; exact .inl h
  · rw [hr] at h; exact .inl h
  · rw [hr] at h ⊢
    exact (List.mem_append.1 h).imp_right fun ho ↦ ⟨hfield, List.mem_singleton.1 ho, rfl⟩

/-- What is remembered once stays remembered. -/
theorem mem_resolve {r : AliasResolver} {o : Occurrence} (h : o ∈ r.occurrences)
    (field signature : String) (index : Nat) :
    o ∈ (r.resolve field signature index).2.occurrences := by
  rcases resolve_cases r field signature index with ⟨-, hr⟩ | ⟨-, _, -, -, -, hr⟩ | ⟨-, hr⟩
  · rw [hr]; exact h
  · rw [hr]; exact h
  · rw [hr]; exact List.mem_append_left _ h

/-- The resolver remembers what it hands out. -/
theorem mem_resolve_self {field : String} (hfield : field ≠ typenameField) (r : AliasResolver)
    (signature : String) (index : Nat) :
    ⟨field, signature, (r.resolve field signature index).1⟩
      ∈ (r.resolve field signature index).2.occurrences := by
  rcases resolve_cases r field signature index with ⟨h, -⟩ | ⟨-, o, ho, rfl, rfl, hr⟩ | ⟨-, hr⟩
  · exact absurd h hfield
  · rw [hr]; exact ho
  · rw [hr]; exact List.mem_append_right _ (List.mem_singleton_self _)

end AliasResolver

end Query
end QueryBuilder
