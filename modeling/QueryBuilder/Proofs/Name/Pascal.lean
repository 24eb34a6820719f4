import QueryBuilder.Proofs.Name.Claims

/-!
# Identifiers in Pascal case

A scope decides which identifiers are new before it escapes keywords, so that an escaped keyword may
be what another name is claimed as.  In Pascal case it never is.

* `underscore_ne_getLast?_pascal` — Pascal case drops the underscores of a name and puts one at
  most in front of it, so nothing ends in an underscore.
* `Scope.candidate_pascal_ne_escape` — so no candidate for a name is what a keyword is escaped to.
* `Scope.nodup_claimAll_pascal` — so the claims of any names are different, with escapes and all.
-/

set_option autoImplicit false

namespace QueryBuilder
namespace Name

open Text

/-! ## Underscores -/

theorem underscore_not_mem_of_mem_segments {cs s : List Char} (hs : s ∈ segments cs) : '_' ∉ s := by
  induction cs generalizing s with
  | nil =>
    rw [List.mem_singleton.1 hs]
    exact List.not_mem_nil
  | cons c rest ih =>
    rw [segments] at hs
    split_ifs at hs with hc
    · rcases List.mem_cons.1 hs with rfl | hs
      · exact List.not_mem_nil
      · exact ih hs
    · cases hsegments : segments rest with
      | nil =>
        rw [hsegments, List.mem_singleton] at hs
        rw [hs, List.mem_singleton]
        exact fun h ↦ hc h.symm
      | cons t others =>
        rw [hsegments] at hs ih
        rcases List.mem_cons.1 hs with rfl | hs
        · rw [List.mem_cons, not_or]
          exact ⟨fun h ↦ hc h.symm, ih List.mem_cons_self⟩
        · exact ih (List.mem_cons_of_mem t hs)

theorem underscore_not_mem_toUpper {c : Char} (h : isNameChar c = true) (hc : '_' ≠ c) :
    '_' ∉ toUpper c := by
  have hascii := isAscii_of_isNameChar h
  rw [toUpper_of_isAscii hascii, List.mem_singleton]
  exact of_isAscii (p := fun c ↦ '_' ≠ c → '_' ≠ c.toUpper) (by decide) hascii hc

theorem underscore_not_mem_toLower {c : Char} (h : isNameChar c = true) (hc : '_' ≠ c) :
    '_' ∉ toLower c := by
  have hascii := isAscii_of_isNameChar h
  rw [toLower_of_isAscii hascii, List.mem_singleton]
  exact of_isAscii (p := fun c ↦ '_' ≠ c → '_' ≠ c.toLower) (by decide) hascii hc

theorem underscore_not_mem_capitalize {cs : List Char} (h : ∀ c ∈ cs, isNameChar c = true)
    (hcs : '_' ∉ cs) : '_' ∉ capitalize cs := by
  cases cs with
  | nil => exact List.not_mem_nil
  | cons c rest =>
    obtain ⟨hc, hrest⟩ := List.forall_mem_cons.1 h
    obtain ⟨hne, hmem⟩ := List.ne_and_not_mem_of_not_mem_cons hcs
    rw [capitalize, List.mem_append, not_or]
    refine ⟨underscore_not_mem_toUpper hc hne, ?_⟩
    split_ifs
    · exact hmem
    · intro hlower
      obtain ⟨d, hd, hmem'⟩ := List.mem_flatMap.1 hlower
      have hne' : '_' ≠ d := fun heq ↦ hmem (heq ▸ hd)
      exact underscore_not_mem_toLower (hrest d hd) hne' hmem'

theorem underscore_not_mem_flatMap_words {cs : List Char} (h : ∀ c ∈ cs, isNameChar c = true) :
    '_' ∉ (words cs).flatMap capitalize := by
  intro hmem
  obtain ⟨s, hs, hmem⟩ := List.mem_flatMap.1 hmem
  have hsegment : s ∈ segments cs := (List.mem_filter.1 hs).1
  exact underscore_not_mem_capitalize (fun c hc ↦ h c (mem_of_mem_segments hsegment hc))
    (underscore_not_mem_of_mem_segments hsegment) hmem

/-- **No name ends in an underscore in Pascal case.** -/
theorem underscore_ne_getLast?_pascal {name : String} (h : isName name = true) :
    (pascal name).toList.getLast? ≠ some '_' := by
  have hwords := underscore_not_mem_flatMap_words fun _ hc ↦ isNameChar_of_isName h hc
  rw [pascal, String.toList_ofList, pascalChars]
  split
  · decide
  · rename_i c rest heq
    have hlast : (c :: rest).getLast? ≠ some '_' :=
      fun hlast ↦ hwords (heq ▸ List.mem_of_getLast? hlast)
    split_ifs
    · rwa [List.getLast?_cons_cons]
    · exact hlast

/-! ## Claims -/

namespace Scope

/-- No name is claimed as what a keyword is escaped to. -/
theorem candidate_pascal_ne_escape {name k : String} (hname : isName name = true)
    (hk : k ∈ plainKeywords ++ rawKeywords) (n : Nat) :
    candidate .pascal (pascal name) n ≠ escape k := by
  cases n with
  | zero =>
    rcases List.mem_append.1 hk with hplain | hraw
    · intro h
      refine underscore_ne_getLast?_pascal hname ?_
      rw [candidate] at h
      rw [h, escape_of_mem_plainKeywords hplain, String.toList_append]
      exact List.getLast?_concat
    · exact asks_ne_of_mem_rawKeywords hname hraw .pascal
  | succ n =>
    intro h
    have hdigit := (endsInDigit_of_keyword hk).2
    rw [← h, candidate, endsInDigit_append_toString] at hdigit
    exact absurd hdigit (by decide)

/-- **Claims of names in Pascal case are different**, keywords or not. -/
theorem nodup_claimAll_pascal {scope : Scope} (hscope : scope.convention = .pascal)
    {names : List String} (hnames : ∀ name ∈ names, isName name = true) :
    (scope.claimAll names).1.Nodup := by
  have hescape : ∀ x ∈ scope.freeAll names, ∀ k ∈ plainKeywords ++ rawKeywords, x ≠ escape k := by
    intro x hx k hk
    obtain ⟨name, hname, n, rfl⟩ := exists_candidate_of_mem_freeAll hx
    rw [hscope]
    exact candidate_pascal_ne_escape (hnames name hname) hk n
  rw [idents_claimAll]
  refine List.Nodup.map_on (fun x hx y hy hxy ↦ ?_) nodup_freeAll
  rcases escape_eq_escape_iff.1 hxy with heq | ⟨hk, heq⟩ | ⟨hk, heq⟩
  · exact heq
  · exact absurd heq (hescape y hy x hk)
  · exact absurd heq (hescape x hx y hk)

end Scope
end Name
end QueryBuilder
