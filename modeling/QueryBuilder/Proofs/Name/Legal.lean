import QueryBuilder.Proofs.Name.Collision

/-!
# Legal identifiers

The names of a schema may be keywords of the generated language, and casing may take them apart:
it drops underscores, and a digit may come first.  What a scope hands out is legal all the same.

## What is here

* `keywords`, `pathKeywords` — the words that the generated language sets aside, and those of them
  that have no raw spelling.  They are listed by what the language does with them and not by how
  `escape` treats them.
* `IsLegal` — an identifier that is no keyword, or the raw spelling of one.
* `Case.isName_apply`, `isName_free` — conventions and numbers make names of names.
* `isLegal_escape` — escaping makes legal identifiers of names.  It leaves alone those that are
  legal as they stand (`escape_eq_self_iff`).
* `Scope.isLegal_claim` — so every claim of a name gets a legal identifier.

Identifiers have the alphabet of names, so `isName` says of an identifier that it is well-formed,
and a single underscore is the only name that is not one.
-/

set_option autoImplicit false

namespace QueryBuilder
namespace Name

open Text

/-! ## The generated language -/

/-- The keywords that are in use. -/
def strictKeywords : List String := [
  "as", "break", "const", "continue", "crate", "else", "enum", "extern", "false", "fn", "for", "if",
  "impl", "in", "let", "loop", "match", "mod", "move", "mut", "pub", "ref", "return", "self",
  "Self", "static", "struct", "super", "trait", "true", "type", "unsafe", "use", "where", "while",
  "async", "await", "dyn"]

/-- The keywords that are kept for later use. -/
def reservedKeywords : List String := [
  "abstract", "become", "box", "do", "final", "macro", "override", "priv", "typeof", "unsized",
  "virtual", "yield", "try"]

/-- The words that are no identifiers. -/
def keywords : List String :=
  strictKeywords ++ reservedKeywords

/-- The keywords that start paths.  They have no raw spelling. -/
def pathKeywords : List String := ["crate", "self", "super", "Self"]

/-- The text is an identifier: it consists of letters, digits and underscores, does not start with
a digit, and is neither a single underscore nor a keyword. -/
structure IsIdentifier (s : String) : Prop where
  isName : isName s = true
  ne_underscore : s ≠ "_"
  not_keyword : s ∉ keywords

/-- The text is the raw spelling of a keyword. -/
def IsRawKeyword (s : String) : Prop :=
  ∃ k ∈ keywords, k ∉ pathKeywords ∧ s = "r#" ++ k

/-- Source may use the text as an identifier. -/
def IsLegal (s : String) : Prop :=
  IsIdentifier s ∨ IsRawKeyword s

instance : DecidablePred IsIdentifier := fun s ↦
  decidable_of_iff (Name.isName s = true ∧ s ≠ "_" ∧ s ∉ keywords)
    ⟨fun h ↦ ⟨h.1, h.2.1, h.2.2⟩, fun h ↦ ⟨h.1, h.2, h.3⟩⟩

instance : DecidablePred IsRawKeyword := fun s ↦
  inferInstanceAs (Decidable (∃ k ∈ keywords, k ∉ pathKeywords ∧ s = "r#" ++ k))

instance : DecidablePred IsLegal := fun _ ↦ inferInstanceAs (Decidable (_ ∨ _))

/-! ## Escapes -/

/-- A single underscore and the keywords are the words that are escaped. -/
theorem mem_escaped_iff {s : String} :
    s ∈ plainKeywords ++ rawKeywords ↔ s = "_" ∨ s ∈ keywords := by
  have hescaped : ∀ k ∈ plainKeywords ++ rawKeywords, k = "_" ∨ k ∈ keywords := by decide +kernel
  have hkeywords : ∀ k ∈ keywords, k ∈ plainKeywords ++ rawKeywords := by decide +kernel
  constructor
  · intro h
    exact hescaped s h
  · rintro (rfl | h)
    · decide
    · exact hkeywords s h

theorem isIdentifier_iff {s : String} (h : isName s = true) :
    IsIdentifier s ↔ s ∉ plainKeywords ++ rawKeywords := by
  rw [mem_escaped_iff, not_or]
  exact ⟨fun hs ↦ ⟨hs.ne_underscore, hs.not_keyword⟩, fun hs ↦ ⟨h, hs.1, hs.2⟩⟩

/-- **Escaping makes identifiers legal.** -/
theorem isLegal_escape {s : String} (h : isName s = true) : IsLegal (escape s) := by
  by_cases hplain : s ∈ plainKeywords
  · have hspellings : ∀ k ∈ plainKeywords, IsIdentifier (k ++ "_") := by decide +kernel
    rw [escape_of_mem_plainKeywords hplain]
    exact .inl (hspellings s hplain)
  · by_cases hraw : s ∈ rawKeywords
    · have hkeywords : ∀ k ∈ rawKeywords, k ∈ keywords ∧ k ∉ pathKeywords := by decide +kernel
      obtain ⟨hkeyword, hpath⟩ := hkeywords s hraw
      rw [escape_of_mem_rawKeywords hraw]
      exact .inr ⟨s, hkeyword, hpath, rfl⟩
    · rw [escape_of_not_mem hplain hraw]
      exact .inl ((isIdentifier_iff h).2 (by simp [hplain, hraw]))

/-- **Only what is no identifier is spelled in another way.** -/
theorem escape_eq_self_iff {s : String} (h : isName s = true) : escape s = s ↔ IsIdentifier s := by
  rw [isIdentifier_iff h]
  constructor
  · intro hescape hmem
    have hne : ∀ k ∈ plainKeywords ++ rawKeywords, escape k ≠ k := by decide +kernel
    exact hne s hmem hescape
  · intro hmem
    rw [List.mem_append, not_or] at hmem
    exact escape_of_not_mem hmem.1 hmem.2

/-! ## Casing -/

theorem isName_of_toList {s : String} {c : Char} {rest : List Char} (hs : s.toList = c :: rest)
    (hc : isNameStart c = true) (hchars : ∀ d ∈ s.toList, isNameChar d = true) :
    isName s = true := by
  rw [hs] at hchars
  exact isName_iff.2 ⟨c, rest, hs, hc, (List.forall_mem_cons.1 hchars).2⟩

theorem isNameStart_toLower {c : Char} (h : isNameStart c = true) :
    isNameStart c.toLower = true := by
  have hascii := isAscii_of_isNameChar (isNameChar_of_isNameStart h)
  exact of_isAscii (p := fun c ↦ isNameStart c = true → isNameStart c.toLower = true)
    (by decide) hascii h

/-- A character of a name that is no digit may come first. -/
theorem isNameStart_of_not_isDigit {c : Char} (h : isNameChar c = true) (hc : c.isDigit ≠ true) :
    isNameStart c = true := by
  simpa [isNameChar, isNameStart, Char.isAlphanum, hc] using h

/-- No underscore goes before the first letter of a name. -/
theorem exists_snakeChars_eq_cons {c : Char} (h : isNameStart c = true) (rest : List Char) :
    ∃ d behind, snakeChars none (c :: rest) = d :: behind ∧ isNameStart d = true := by
  have hascii := isAscii_of_isNameChar (isNameChar_of_isNameStart h)
  rw [snakeChars]
  split_ifs with hupper hstarts
  · simp [startsWord] at hstarts
  · rw [toLower_of_isAscii hascii]
    exact ⟨c.toLower, _, rfl, isNameStart_toLower h⟩
  · exact ⟨c, _, rfl, h⟩

/-- A digit does not come first in Pascal case. -/
theorem exists_pascalChars_eq_cons {cs : List Char} (h : ∀ c ∈ cs, isNameChar c = true) :
    ∃ d behind, pascalChars cs = d :: behind ∧ isNameStart d = true := by
  have hchars := isNameChar_pascalChars h
  rw [pascalChars] at hchars ⊢
  split
  · exact ⟨'U', "nnamed".toList, rfl, by decide⟩
  · rename_i c rest hwords
    rw [hwords] at hchars
    split_ifs with hdigit
    · exact ⟨'_', c :: rest, rfl, by decide⟩
    · simp only [hdigit] at hchars
      exact ⟨c, rest, rfl, isNameStart_of_not_isDigit (hchars c List.mem_cons_self) hdigit⟩

/-- **Conventions make names of names.** -/
theorem Case.isName_apply (convention : Case) {name : String} (h : isName name = true) :
    isName (convention.apply name) = true := by
  have hchars := convention.isNameChar_apply h
  cases convention with
  | snake =>
    obtain ⟨c, rest, hname, hc, -⟩ := isName_iff.1 h
    obtain ⟨d, behind, hsnake, hd⟩ := exists_snakeChars_eq_cons hc rest
    have happly : (Case.snake.apply name).toList = d :: behind := by
      rw [apply, Name.snake, String.toList_ofList, hname, hsnake]
    exact isName_of_toList happly hd hchars
  | pascal =>
    obtain ⟨d, behind, hpascal, hd⟩ :=
      exists_pascalChars_eq_cons fun _ hc ↦ isNameChar_of_isName h hc
    have happly : (Case.pascal.apply name).toList = d :: behind := by
      rw [apply, Name.pascal, String.toList_ofList, hpascal]
    exact isName_of_toList happly hd hchars
  | verbatim => exact h

/-! ## Claims -/

theorem isName_append {s t : String} (hs : isName s = true) (ht : isWord t = true) :
    isName (s ++ t) = true := by
  obtain ⟨c, rest, hname, hc, hrest⟩ := isName_iff.1 hs
  refine isName_iff.2 ⟨c, rest ++ t.toList, by simp [hname], hc, ?_⟩
  rw [List.forall_mem_append]
  exact ⟨hrest, isWord_iff.1 ht⟩

theorem isWord_separator (convention : Case) : isWord (Scope.separator convention) = true := by
  cases convention <;> decide

/-- Numbers make words of words, -/
theorem isWord_candidate {convention : Case} {base : String} (h : isWord base = true) (n : Nat) :
    isWord (Scope.candidate convention base n) = true := by
  cases n with
  | zero => exact h
  | succ n =>
    rw [Scope.candidate, isWord_append, isWord_append, h, isWord_separator, isWord_toString]
    rfl

/-- and names of names. -/
theorem isName_candidate {convention : Case} {base : String} (h : isName base = true) (n : Nat) :
    isName (Scope.candidate convention base n) = true := by
  cases n with
  | zero => exact h
  | succ n =>
    have hseparated := isName_append h (isWord_separator convention)
    exact isName_append hseparated (isWord_toString _)

/-- What a name gets is a name before keywords are escaped. -/
theorem isName_free (scope : Scope) {name : String} (h : isName name = true) :
    isName (scope.free name) = true :=
  isName_candidate (scope.convention.isName_apply h) _

theorem isWord_free (scope : Scope) {name : String} (h : isName name = true) :
    isWord (scope.free name) = true :=
  isWord_of_isName (isName_free scope h)

namespace Scope

/-- **Every claim of a name gets a legal identifier**, whatever is in use.  It is the identifier
that the scope found free if that is legal as it stands. -/
theorem isLegal_claim (scope : Scope) {name : String} (h : isName name = true) :
    IsLegal (scope.claim name).1
      ∧ ((scope.claim name).1 = scope.free name ↔ IsIdentifier (scope.free name)) := by
  have hfree := isName_free scope h
  exact ⟨isLegal_escape hfree, escape_eq_self_iff hfree⟩

/-- Names that become keywords, lose what they start with or have no letters. -/
def awkwardNames : List (Case × String) := [
  (.snake, "Type"), (.snake, "selF"), (.pascal, "SELF"), (.pascal, "_1ST"), (.pascal, "__"),
  (.verbatim, "_"), (.verbatim, "crate"), (.verbatim, "try")]

theorem isLegal_claim_awkwardNames :
    (∀ p ∈ awkwardNames, isName p.2 = true)
      ∧ (awkwardNames.map fun p ↦ ((ofReserved p.1 ["_1st", "crate"]).claim p.2).1)
        = ["r#type", "sel_f", "Self_", "_1st2", "Unnamed", "__", "crate2", "r#try"]
      ∧ ∀ p ∈ awkwardNames, IsLegal ((ofReserved p.1 ["_1st", "crate"]).claim p.2).1 := by
  have hnames : ∀ p ∈ awkwardNames, isName p.2 = true := by decide
  refine ⟨hnames, by decide, fun p hp ↦ ?_⟩
  exact (isLegal_claim _ (hnames p hp)).1

end Scope
end Name
end QueryBuilder
