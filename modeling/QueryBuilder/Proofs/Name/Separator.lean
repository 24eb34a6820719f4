import QueryBuilder.Name.Scope
import QueryBuilder.Proofs.Name.Grammar

/-!
# Separators in identifiers

Slashes and line breaks have a meaning where identifiers are put: in paths, and in source that is
read line by line.  No name has them, but nothing keeps them out of a schema either.  They come
before the digits, and what conventions, numbers and escapes make comes after them, but for the mark
of raw identifiers.  So they are in an identifier exactly if they are in what it was claimed for.

* `mem_toLower_iff`, `mem_snake_iff` — casing neither makes nor removes separators,
* `Scope.mem_candidate_iff` — nor do the numbers that make identifiers unique,
* `mem_escape_iff` — nor the escapes of keywords.
* `Scope.mem_claimAll_iff` — so parameters and members have the separators of their names.
-/

set_option autoImplicit false

namespace QueryBuilder
namespace Name

open Text

/-- A character before the digits, other than zero and the mark of raw identifiers. -/
structure IsSeparator (d : Char) : Prop where
  pos : 0 < d.toNat
  lt : d.toNat < 48
  ne : d ≠ '#'

theorem isSeparator_slash : IsSeparator '/' := ⟨by decide, by decide, by decide⟩

theorem isSeparator_newline : IsSeparator '\n' := ⟨by decide, by decide, by decide⟩

variable {d : Char} (hd : IsSeparator d)
include hd

/-- A separator is in no text of digits and what comes after them. -/
theorem IsSeparator.not_mem {cs : List Char} (h : ∀ c ∈ cs, 48 ≤ c.toNat) : d ∉ cs :=
  fun hmem ↦ Nat.not_le.2 hd.lt (h d hmem)

theorem IsSeparator.ne_underscore : d ≠ '_' := by
  rintro rfl
  exact absurd hd.lt (by decide)

theorem IsSeparator.not_mem_underscore : d ∉ "_".toList :=
  fun h ↦ hd.ne_underscore (List.mem_singleton.1 h)

theorem IsSeparator.isAscii : isAscii d = true :=
  decide_eq_true (Nat.lt_trans hd.lt (by decide))

/-! ## Casing -/

theorem mem_toLower_iff {c : Char} : d ∈ toLower c ↔ d = c := by
  have hexpansions : ∀ e ∈ LetterTable.toLowerExpansions, ∀ n ∈ e.2,
      48 ≤ (Char.ofNat n).toNat := by
    decide +kernel
  -- All letters of a run lie, at its distance, behind the separators.
  have hshifts : ∀ s ∈ LetterTable.toLowerShifts, (47 : Int) < s.1.first + s.2 := by
    decide +kernel
  rw [toLower]
  split_ifs with hascii
  · rw [List.mem_singleton]
    have hlower : c.toLower = c ∨ 48 ≤ c.toLower.toNat ∧ 48 ≤ c.toNat :=
      of_isAscii (p := fun c ↦ c.toLower = c ∨ 48 ≤ c.toLower.toNat ∧ 48 ≤ c.toNat) (by decide)
        hascii
    rcases hlower with heq | ⟨hle, hle'⟩
    · rw [heq]
    · exact iff_of_false (fun h ↦ Nat.not_le.2 hd.lt (h ▸ hle)) fun h ↦ Nat.not_le.2 hd.lt (h ▸ hle')
  · have hne : d ≠ c := fun h ↦ hascii (h ▸ hd.isAscii)
    refine iff_of_false ?_ hne
    rw [otherCase]
    split
    · rename_i heq
      exact hd.not_mem (List.forall_mem_map.2 (hexpansions _ (List.mem_of_find?_eq_some heq)))
    · split
      · rename_i run distance heq
        have hfirst := hshifts _ (List.mem_of_find?_eq_some heq)
        have hrun := List.find?_some heq
        simp only [Run.contains, Bool.and_eq_true, decide_eq_true_eq] at hrun
        rw [List.mem_singleton]
        intro hshifted
        have hcode := congrArg Char.toNat hshifted
        have hlt := hd.lt
        have hpos := hd.pos
        rw [Char.toNat_ofNat] at hcode
        dsimp only at hfirst
        split_ifs at hcode
        · omega
        · omega
      · rwa [List.mem_singleton]

theorem mem_snakeChars_iff {cs : List Char} (before : Option Char) :
    d ∈ snakeChars before cs ↔ d ∈ cs := by
  induction cs generalizing before with
  | nil => rfl
  | cons c rest ih =>
    rw [snakeChars, List.mem_cons]
    split_ifs
    · simp only [List.mem_append, List.mem_singleton, hd.ne_underscore, mem_toLower_iff hd, ih,
        false_or]
    · simp only [List.mem_append, List.not_mem_nil, mem_toLower_iff hd, ih, false_or]
    · exact List.mem_cons.trans (or_congr_right (ih _))

/-- **Snake case has the separators of the name.** -/
theorem mem_snake_iff {name : String} : d ∈ (snake name).toList ↔ d ∈ name.toList := by
  rw [snake, String.toList_ofList, mem_snakeChars_iff hd]

/-! ## Identifiers -/

theorem not_mem_toString (n : Nat) : d ∉ (toString n).toList := by
  refine hd.not_mem fun c hc ↦ ?_
  have hdigit := isDigit_of_mem_toString hc
  simp only [Char.isDigit, Bool.and_eq_true, decide_eq_true_eq, ge_iff_le,
    UInt32.le_iff_toNat_le] at hdigit
  exact hdigit.1

theorem Scope.mem_candidate_iff {convention : Case} {base : String} (n : Nat) :
    d ∈ (candidate convention base n).toList ↔ d ∈ base.toList := by
  have hseparator : d ∉ (separator convention).toList := by
    cases convention with
    | snake => exact hd.not_mem_underscore
    | pascal => exact List.not_mem_nil
    | verbatim => exact List.not_mem_nil
  cases n with
  | zero => rfl
  | succ n =>
    simp only [candidate, String.toList_append, List.mem_append, hseparator,
      not_mem_toString hd, or_false]

theorem mem_escape_iff {ident : String} : d ∈ (escape ident).toList ↔ d ∈ ident.toList := by
  have hmark : d ∉ "r#".toList := by
    intro h
    rcases List.mem_cons.1 h with rfl | h
    · exact absurd hd.lt (by decide)
    · exact hd.ne (List.mem_singleton.1 h)
  rw [escape]
  split_ifs
  · simp only [String.toList_append, List.mem_append, hd.not_mem_underscore, or_false]
  · simp only [String.toList_append, List.mem_append, hmark, false_or]
  · rfl

/-- **Identifiers in snake case have the separators of the names they are claimed for.** -/
theorem Scope.mem_claimAll_iff {scope : Scope} (hscope : scope.convention = .snake)
    (names : List String) :
    List.Forall₂ (fun name ident ↦ d ∈ ident.toList ↔ d ∈ name.toList) names
      (scope.claimAll names).1 := by
  induction names generalizing scope with
  | nil => exact .nil
  | cons name rest ih =>
    have hident : d ∈ (escape (scope.free name)).toList ↔ d ∈ name.toList := by
      rw [mem_escape_iff hd, free, fresh, hscope, mem_candidate_iff hd]
      exact mem_snake_iff hd
    exact .cons hident (ih hscope)

end Name
end QueryBuilder
