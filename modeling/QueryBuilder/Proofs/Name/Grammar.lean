import Mathlib
import QueryBuilder.Name.Case

/-!
# The names of a schema

A name is a letter or an underscore, followed by letters, digits and underscores, all of them
ASCII.  Schemas and queries are made of such names, and no convention takes an identifier out of
their alphabet (`Case.isNameChar_apply`).  A text in this alphabet is a word (`isWord`), whatever it
starts with.
-/

set_option autoImplicit false

namespace QueryBuilder
namespace Name

open Text

/-- The characters that a name may start with. -/
def isNameStart (c : Char) : Bool :=
  c.isAlpha || c == '_'

/-- The characters of a name. -/
def isNameChar (c : Char) : Bool :=
  c.isAlphanum || c == '_'

/-- Whether a text is a name. -/
def isName (name : String) : Bool :=
  match name.toList with
  | [] => false
  | c :: rest => isNameStart c && rest.all isNameChar

theorem isNameChar_of_isNameStart {c : Char} (h : isNameStart c = true) : isNameChar c = true := by
  rw [isNameStart, Bool.or_eq_true] at h
  rw [isNameChar, Char.isAlphanum, Bool.or_eq_true, Bool.or_eq_true]
  exact h.imp_left .inl

theorem isName_iff {name : String} : isName name = true ↔
    ∃ c rest, name.toList = c :: rest ∧ isNameStart c = true ∧ ∀ d ∈ rest, isNameChar d = true := by
  rw [isName]
  cases name.toList with
  | nil => simp
  | cons c rest => simp [and_assoc]

theorem isNameChar_of_isName {name : String} (h : isName name = true) {c : Char}
    (hc : c ∈ name.toList) : isNameChar c = true := by
  obtain ⟨d, rest, hname, hd, hrest⟩ := isName_iff.1 h
  rw [hname] at hc
  rcases List.mem_cons.1 hc with rfl | hc
  · exact isNameChar_of_isNameStart hd
  · exact hrest c hc

/-! ## Words -/

/-- Whether a text consists of the characters of names. -/
def isWord (s : String) : Bool :=
  s.toList.all isNameChar

theorem isWord_iff {s : String} : isWord s = true ↔ ∀ c ∈ s.toList, isNameChar c = true :=
  List.all_eq_true

theorem isWord_of_isName {name : String} (h : isName name = true) : isWord name = true :=
  isWord_iff.2 fun _ hc ↦ isNameChar_of_isName h hc

@[simp]
theorem isWord_append (s t : String) : isWord (s ++ t) = (isWord s && isWord t) := by
  rw [isWord, String.toList_append, List.all_append, isWord, isWord]

/-- Numbers are written in digits. -/
theorem isDigit_of_mem_toString {n : Nat} {c : Char} (h : c ∈ (toString n).toList) :
    c.isDigit = true := by
  have hdigits : (toString n).toList = Nat.toDigits 10 n := Nat.toList_repr
  exact Nat.isDigit_of_mem_toDigits (by decide) (by decide) (hdigits ▸ h)

theorem isWord_toString (n : Nat) : isWord (toString n) = true := by
  refine isWord_iff.2 fun c hc ↦ ?_
  rw [isNameChar, Char.isAlphanum, isDigit_of_mem_toString hc, Bool.or_true, Bool.true_or]

/-! ## Casing -/

/-- What holds of the first 128 characters holds of every ASCII character. -/
theorem of_isAscii {p : Char → Prop} (h : ∀ n < 128, p (Char.ofNat n)) {c : Char}
    (hc : isAscii c = true) : p c := by
  have := h c.toNat (of_decide_eq_true hc)
  rwa [Char.ofNat_toNat] at this

theorem isAscii_of_isNameChar {c : Char} (h : isNameChar c = true) : isAscii c = true := by
  rw [isNameChar, Char.isAlphanum, Char.isAlpha] at h
  simp only [Char.isUpper, Char.isLower, Char.isDigit, Bool.or_eq_true, Bool.and_eq_true,
    decide_eq_true_eq, beq_iff_eq, UInt32.le_iff_toNat_le, ge_iff_le] at h
  rw [isAscii, decide_eq_true_eq, Char.toNat]
  rcases h with ((⟨-, h⟩ | ⟨-, h⟩) | ⟨-, h⟩) | rfl
  · exact Nat.lt_of_le_of_lt h (by decide)
  · exact Nat.lt_of_le_of_lt h (by decide)
  · exact Nat.lt_of_le_of_lt h (by decide)
  · decide

theorem isNameChar_toLower {c : Char} (h : isNameChar c = true) :
    ∀ d ∈ toLower c, isNameChar d = true := by
  have hascii := isAscii_of_isNameChar h
  rw [toLower_of_isAscii hascii, List.forall_mem_singleton]
  exact of_isAscii (p := fun c ↦ isNameChar c = true → isNameChar c.toLower = true)
    (by decide) hascii h

theorem isNameChar_toUpper {c : Char} (h : isNameChar c = true) :
    ∀ d ∈ toUpper c, isNameChar d = true := by
  have hascii := isAscii_of_isNameChar h
  rw [toUpper_of_isAscii hascii, List.forall_mem_singleton]
  exact of_isAscii (p := fun c ↦ isNameChar c = true → isNameChar c.toUpper = true)
    (by decide) hascii h

/-- What holds of underscores and of lowered characters holds of snake case. -/
theorem forall_mem_snakeChars {p : Char → Prop} (hunderscore : p '_')
    (hlower : ∀ c, p c → ∀ d ∈ toLower c, p d) {cs : List Char} (h : ∀ c ∈ cs, p c)
    (before : Option Char) : ∀ c ∈ snakeChars before cs, p c := by
  induction cs generalizing before with
  | nil => exact fun _ hc ↦ absurd hc List.not_mem_nil
  | cons d rest ih =>
    obtain ⟨hd, hrest⟩ := List.forall_mem_cons.1 h
    rw [snakeChars]
    split_ifs
    · simp only [List.forall_mem_append, List.forall_mem_singleton]
      exact ⟨⟨hunderscore, hlower d hd⟩, ih hrest _⟩
    · simp only [List.forall_mem_append]
      exact ⟨⟨fun _ hc ↦ absurd hc List.not_mem_nil, hlower d hd⟩, ih hrest _⟩
    · exact List.forall_mem_cons.2 ⟨hd, ih hrest _⟩

theorem isNameChar_snakeChars {cs : List Char} (h : ∀ c ∈ cs, isNameChar c = true)
    (before : Option Char) : ∀ c ∈ snakeChars before cs, isNameChar c = true :=
  forall_mem_snakeChars (by decide) (fun _ ↦ isNameChar_toLower) h before

theorem mem_of_mem_segments {cs s : List Char} (hs : s ∈ segments cs) {c : Char} (hc : c ∈ s) :
    c ∈ cs := by
  induction cs generalizing s with
  | nil =>
    rw [List.mem_singleton.1 hs] at hc
    exact absurd hc List.not_mem_nil
  | cons d rest ih =>
    rw [segments] at hs
    split_ifs at hs
    · rcases List.mem_cons.1 hs with rfl | hs
      · exact absurd hc List.not_mem_nil
      · exact List.mem_cons_of_mem d (ih hs hc)
    · cases hsegments : segments rest with
      | nil =>
        rw [hsegments, List.mem_singleton] at hs
        rw [hs] at hc
        exact List.mem_cons.2 ((List.mem_cons.1 hc).imp_right fun h ↦ absurd h List.not_mem_nil)
      | cons t others =>
        rw [hsegments] at hs ih
        rcases List.mem_cons.1 hs with rfl | hs
        · exact List.mem_cons.2 ((List.mem_cons.1 hc).imp_right (ih List.mem_cons_self))
        · exact List.mem_cons_of_mem d (ih (List.mem_cons_of_mem t hs) hc)

theorem isNameChar_capitalize {cs : List Char} (h : ∀ c ∈ cs, isNameChar c = true) :
    ∀ c ∈ capitalize cs, isNameChar c = true := by
  cases cs with
  | nil => exact fun _ hc ↦ absurd hc List.not_mem_nil
  | cons d rest =>
    obtain ⟨hd, hrest⟩ := List.forall_mem_cons.1 h
    rw [capitalize, List.forall_mem_append]
    refine ⟨isNameChar_toUpper hd, ?_⟩
    split_ifs
    · exact hrest
    · intro c hc
      obtain ⟨e, he, hce⟩ := List.mem_flatMap.1 hc
      exact isNameChar_toLower (hrest e he) c hce

theorem isNameChar_pascalChars {cs : List Char} (h : ∀ c ∈ cs, isNameChar c = true) :
    ∀ c ∈ pascalChars cs, isNameChar c = true := by
  have hwords : ∀ c ∈ (words cs).flatMap capitalize, isNameChar c = true := by
    intro c hc
    obtain ⟨s, hs, hcs⟩ := List.mem_flatMap.1 hc
    have hsegment : s ∈ segments cs := (List.mem_filter.1 hs).1
    exact isNameChar_capitalize (fun d hd ↦ h d (mem_of_mem_segments hsegment hd)) c hcs
  rw [pascalChars]
  split
  · exact fun _ hc ↦ isNameChar_of_isName (show isName "Unnamed" = true by decide) hc
  · rename_i c rest heq
    rw [heq] at hwords
    split_ifs
    · exact List.forall_mem_cons.2 ⟨by decide, hwords⟩
    · exact hwords

/-- **Conventions keep to the alphabet of names.** -/
theorem Case.isNameChar_apply (convention : Case) {name : String} (h : isName name = true) :
    ∀ c ∈ (convention.apply name).toList, isNameChar c = true := by
  have hname : ∀ c ∈ name.toList, isNameChar c = true := fun _ hc ↦ isNameChar_of_isName h hc
  cases convention with
  | snake =>
    rw [apply, Name.snake, String.toList_ofList]
    exact isNameChar_snakeChars hname none
  | pascal =>
    rw [apply, Name.pascal, String.toList_ofList]
    exact isNameChar_pascalChars hname
  | verbatim => exact hname

end Name
end QueryBuilder
