import QueryBuilder.Proofs.Name.Pascal

/-!
# What casing keeps

Conventions differ in capitals and underscores, and in nothing else: a name may be told in any of
them as far as its letters and digits go.

## What is here

* `lettersOf` — a text without its underscores.
* `Spaced` — a text is another one in small letters, with underscores put between some of its
  characters and none of them next to an underscore.  What snake case keeps follows from this
  alone: the letters (`Spaced.lettersOf_eq`), the underscores in front (`Spaced.leading_eq`), and
  that no capitals are left (`Spaced.not_isUpper`).
* `spaced_snake` — snake case is that.  Its words start at capitals behind letters and digits, so
  never next to an underscore.
* `snakeChars_of_not_isUpper` — where there are no capitals, snake case has nothing to do.
* `map_toLower_words` — the words of a name, with capital letters in front, are its letters.
* `casing_keeps_letters` — what both conventions make of a name.
-/

set_option autoImplicit false

namespace QueryBuilder
namespace Name

open Text

/-! ## Letters -/

/-- The characters of a text that are no underscores. -/
def lettersOf (cs : List Char) : List Char :=
  cs.filter (· ≠ '_')

/-- The underscores at the start of a text. -/
def leading (cs : List Char) : List Char :=
  cs.takeWhile (· = '_')

@[simp]
theorem lettersOf_nil : lettersOf [] = [] :=
  rfl

@[simp]
theorem lettersOf_underscore (cs : List Char) : lettersOf ('_' :: cs) = lettersOf cs :=
  rfl

theorem lettersOf_cons {c : Char} (h : c ≠ '_') (cs : List Char) :
    lettersOf (c :: cs) = c :: lettersOf cs := by
  simp [lettersOf, h]

theorem lettersOf_eq_self {cs : List Char} (h : '_' ∉ cs) : lettersOf cs = cs := by
  refine List.filter_eq_self.2 fun c hc ↦ ?_
  have hne : c ≠ '_' := fun heq ↦ h (heq ▸ hc)
  simp [hne]

theorem leading_cons {c : Char} (h : c ≠ '_') (cs : List Char) : leading (c :: cs) = [] := by
  simp [leading, h]

theorem toLower_underscore : '_'.toLower = '_' := by
  decide

/-- Only the underscore is lowered to the underscore. -/
theorem toLower_ne_underscore {c : Char} (h : c ≠ '_') : c.toLower ≠ '_' := by
  by_cases hupper : c.isUpper = true
  · intro hlower
    have halpha : c.toLower.isAlpha = true := by
      simp [Char.isAlpha, hupper]
    rw [hlower] at halpha
    exact absurd halpha (by decide)
  · rwa [Char.toLower_eq_of_not_isUpper (by simpa using hupper)]

/-! ## Snake case -/

/-- The second text is the first one in small letters, with underscores put between some of its
characters.  None of these stands next to another underscore. -/
inductive Spaced : List Char → List Char → Prop where
  | nil : Spaced [] []
  | keep {c : Char} {cs out : List Char} : Spaced cs out → Spaced (c :: cs) (c.toLower :: out)
  | put {c d : Char} {cs out : List Char} : c ≠ '_' → d ≠ '_' → Spaced (d :: cs) out →
      Spaced (c :: d :: cs) (c.toLower :: '_' :: out)

namespace Spaced

variable {cs out : List Char}

/-- Deleting the underscores leaves the letters. -/
theorem lettersOf_eq (h : Spaced cs out) : lettersOf out = (lettersOf cs).map Char.toLower := by
  induction h with
  | nil => rfl
  | @keep c cs out _ ih =>
    by_cases hc : c = '_'
    · rw [hc, toLower_underscore, lettersOf_underscore, lettersOf_underscore, ih]
    · rw [lettersOf_cons (toLower_ne_underscore hc), lettersOf_cons hc, ih, List.map_cons]
  | put hc hd _ ih =>
    rw [lettersOf_cons (toLower_ne_underscore hc), lettersOf_underscore, lettersOf_cons hc, ih,
      List.map_cons]

/-- The underscores in front are those that were there. -/
theorem leading_eq (h : Spaced cs out) : leading out = leading cs := by
  induction h with
  | nil => rfl
  | @keep c cs out _ ih =>
    by_cases hc : c = '_'
    · rw [hc, toLower_underscore]
      simpa [leading] using ih
    · rw [leading_cons (toLower_ne_underscore hc), leading_cons hc]
  | put hc hd _ _ => rw [leading_cons (toLower_ne_underscore hc), leading_cons hc]

/-- What is there is an underscore or was lowered. -/
theorem eq_or_exists_of_mem (h : Spaced cs out) {d : Char} (hd : d ∈ out) :
    d = '_' ∨ ∃ c ∈ cs, d = c.toLower := by
  induction h with
  | nil => exact absurd hd List.not_mem_nil
  | keep _ ih =>
    rcases List.mem_cons.1 hd with rfl | hd
    · exact .inr ⟨_, List.mem_cons_self, rfl⟩
    · exact (ih hd).imp_right fun ⟨c, hc, heq⟩ ↦ ⟨c, List.mem_cons_of_mem _ hc, heq⟩
  | put _ _ _ ih =>
    rcases List.mem_cons.1 hd with rfl | hd
    · exact .inr ⟨_, List.mem_cons_self, rfl⟩
    · rcases List.mem_cons.1 hd with rfl | hd
      · exact .inl rfl
      · exact (ih hd).imp_right fun ⟨c, hc, heq⟩ ↦ ⟨c, List.mem_cons_of_mem _ hc, heq⟩

/-- No capitals are left in ASCII text. -/
theorem not_isUpper (h : Spaced cs out) (hcs : ∀ c ∈ cs, isAscii c = true) :
    ∀ d ∈ out, isUpper d = false := by
  intro d hd
  rcases h.eq_or_exists_of_mem hd with rfl | ⟨c, hc, rfl⟩
  · decide
  · exact of_isAscii (p := fun c ↦ isUpper c.toLower = false) (by decide) (hcs c hc)

end Spaced

/-- No word starts behind an underscore. -/
theorem ne_underscore_of_startsWord {c : Char} {after : Option Char}
    (h : startsWord (some c) after = true) : c ≠ '_' := by
  rintro rfl
  simp [startsWord, show isLower '_' = false by decide, show isUpper '_' = false by decide,
    show '_'.isDigit = false by decide] at h

theorem toLower_eq_self {c : Char} (hc : isAscii c = true) (h : isUpper c = false) :
    c.toLower = c := by
  rw [isUpper_of_isAscii hc] at h
  exact Char.toLower_eq_of_not_isUpper (by simp [h])

/-- The induction is on what is behind a character, because it decides with it where an underscore
goes. -/
theorem spaced_cons {c : Char} {rest : List Char} (h : ∀ d ∈ rest, isAscii d = true) :
    Spaced (c :: rest) (c.toLower :: snakeChars (some c) rest) := by
  induction rest generalizing c with
  | nil => exact .keep .nil
  | cons d rest ih =>
    obtain ⟨hd, hrest⟩ := List.forall_mem_cons.1 h
    rw [snakeChars, toLower_of_isAscii hd]
    split_ifs with hupper hstarts
    · have hne : d ≠ '_' := by
        rintro rfl
        exact absurd hupper (by decide)
      exact .put (ne_underscore_of_startsWord hstarts) hne (ih hrest)
    · exact .keep (ih hrest)
    · have hlower := ih (c := d) hrest
      rw [toLower_eq_self hd (by simpa using hupper)] at hlower
      exact .keep hlower

/-- **Snake case is the name in small letters, with underscores put between its words.** -/
theorem spaced_snake {name : String} (h : ∀ c ∈ name.toList, isAscii c = true) :
    Spaced name.toList (snake name).toList := by
  rw [snake, String.toList_ofList]
  cases hname : name.toList with
  | nil => exact .nil
  | cons c rest =>
    rw [hname] at h
    obtain ⟨hc, hrest⟩ := List.forall_mem_cons.1 h
    have hspaced : Spaced (c :: rest) (c.toLower :: snakeChars (some c) rest) := spaced_cons hrest
    rw [snakeChars, toLower_of_isAscii hc]
    split_ifs with hupper hstarts
    · simp [startsWord] at hstarts
    · exact hspaced
    · rwa [toLower_eq_self hc (by simpa using hupper)] at hspaced

theorem snakeChars_of_not_isUpper {cs : List Char} (h : ∀ c ∈ cs, isUpper c = false)
    (before : Option Char) : snakeChars before cs = cs := by
  induction cs generalizing before with
  | nil => rfl
  | cons c rest ih =>
    obtain ⟨hc, hrest⟩ := List.forall_mem_cons.1 h
    simp [snakeChars, hc, ih hrest]

/-! ## Pascal case -/

theorem flatten_segments (cs : List Char) : (segments cs).flatten = lettersOf cs := by
  induction cs with
  | nil => rfl
  | cons c rest ih =>
    rw [segments]
    split_ifs with hc
    · rw [hc, lettersOf_underscore, ← ih, List.flatten_cons, List.nil_append]
    · rw [lettersOf_cons hc, ← ih]
      cases segments rest <;> rfl

/-- The words of a name are its letters. -/
theorem flatten_words (cs : List Char) : (words cs).flatten = lettersOf cs := by
  rw [words, ← flatten_segments]
  induction segments cs with
  | nil => rfl
  | cons s others ih => cases s <;> simpa using ih

/-- A word with a capital in front has the same letters. -/
theorem map_toLower_capitalize {cs : List Char} (h : ∀ c ∈ cs, isAscii c = true) :
    (capitalize cs).map Char.toLower = cs.map Char.toLower := by
  cases cs with
  | nil => rfl
  | cons c rest =>
    obtain ⟨hc, hrest⟩ := List.forall_mem_cons.1 h
    have hlowered : rest.flatMap toLower = rest.map Char.toLower := by
      rw [List.map_eq_flatMap]
      exact List.flatMap_congr fun d hd ↦ toLower_of_isAscii (hrest d hd)
    rw [capitalize, toUpper_of_isAscii hc, hlowered]
    split_ifs <;> simp

/-- **The words of a name in Pascal case have its letters.** -/
theorem map_toLower_words {cs : List Char} (h : ∀ c ∈ cs, isAscii c = true) :
    ((words cs).flatMap capitalize).map Char.toLower = (lettersOf cs).map Char.toLower := by
  have hword : ∀ s ∈ words cs, (capitalize s).map Char.toLower = s.map Char.toLower := by
    intro s hs
    have hsegment : s ∈ segments cs := (List.mem_filter.1 hs).1
    exact map_toLower_capitalize fun c hc ↦ h c (mem_of_mem_segments hsegment hc)
  rw [List.map_flatMap, List.flatMap_congr hword, ← flatten_words, List.map_flatten,
    List.flatMap_def]

/-! ## Both -/

/-- The text tells a name in snake case. -/
structure IsSnakeCase (name out : String) : Prop where
  /-- Deleting the underscores leaves the letters of the name, lowered. -/
  letters : lettersOf out.toList = (lettersOf name.toList).map Char.toLower
  /-- There are no capitals. -/
  not_isUpper : ∀ c ∈ out.toList, isUpper c = false
  /-- The underscores in front are those of the name. -/
  leading : leading out.toList = leading name.toList
  /-- No underscore is put next to another one. -/
  spaced : Spaced name.toList out.toList
  /-- In snake case the text is what it is. -/
  snake_eq : snake out = out

/-- The text tells a name in Pascal case. -/
structure IsPascalCase (name out : String) : Prop where
  /-- Deleting the underscores leaves the letters of the name, up to their case. -/
  letters : (lettersOf out.toList).map Char.toLower = (lettersOf name.toList).map Char.toLower
  /-- There are no underscores, save for one at the start that keeps off a digit. -/
  underscore : '_' ∉ out.toList
    ∨ ∃ d rest, out.toList = '_' :: d :: rest ∧ d.isDigit = true ∧ '_' ∉ d :: rest

theorem isSnakeCase_snake {name : String} (h : ∀ c ∈ name.toList, isAscii c = true) :
    IsSnakeCase name (snake name) where
  letters := (spaced_snake h).lettersOf_eq
  not_isUpper := (spaced_snake h).not_isUpper h
  leading := (spaced_snake h).leading_eq
  spaced := spaced_snake h
  snake_eq := by
    have hlower := (spaced_snake h).not_isUpper h
    rw [snake, snakeChars_of_not_isUpper hlower, String.ofList_toList]

theorem isPascalCase_pascal {name : String} (h : isName name = true)
    (hletter : ∃ c ∈ name.toList, c ≠ '_') : IsPascalCase name (pascal name) := by
  have hchars : ∀ c ∈ name.toList, isNameChar c = true := fun _ hc ↦ isNameChar_of_isName h hc
  have hletters := map_toLower_words fun c hc ↦ isAscii_of_isNameChar (hchars c hc)
  have hwords : (words name.toList).flatMap capitalize ≠ [] := by
    intro hnil
    obtain ⟨c, hc, hne⟩ := hletter
    rw [hnil, List.map_nil, eq_comm, List.map_eq_nil_iff] at hletters
    have hmem : c ∈ lettersOf name.toList := List.mem_filter.2 ⟨hc, by simpa using hne⟩
    rw [hletters] at hmem
    exact absurd hmem List.not_mem_nil
  have hplain := underscore_not_mem_flatMap_words hchars
  obtain ⟨c, rest, heq⟩ := List.exists_cons_of_ne_nil hwords
  rw [heq] at hletters hplain
  have hpascal : (pascal name).toList = if c.isDigit then '_' :: c :: rest else c :: rest := by
    rw [pascal, String.toList_ofList, pascalChars, heq]
  constructor
  · rw [hpascal, ← hletters]
    split_ifs
    · rw [lettersOf_underscore, lettersOf_eq_self hplain]
    · rw [lettersOf_eq_self hplain]
  · rw [hpascal]
    split_ifs with hdigit
    · exact .inr ⟨c, rest, rfl, hdigit, hplain⟩
    · exact .inl hplain

/-- **Casing keeps the letters and digits of a name.**  Snake case lowers them and puts underscores
between words; Pascal case drops the underscores, if there is anything besides them. -/
theorem casing_keeps_letters {name : String} (h : isName name = true) :
    IsSnakeCase name (snake name)
      ∧ ((∃ c ∈ name.toList, c ≠ '_') → IsPascalCase name (pascal name)) :=
  ⟨isSnakeCase_snake fun _ hc ↦ isAscii_of_isNameChar (isNameChar_of_isName h hc),
    isPascalCase_pascal h⟩

/-- A name with runs of underscores, capitals and digits, one of them in front. -/
def parserName : String := "__2HTMLParser_Version3ID"

theorem casing_keeps_letters_parserName :
    isName parserName = true ∧ (∃ c ∈ parserName.toList, c ≠ '_')
      ∧ snake parserName = "__2_html_parser_version3_id"
      ∧ pascal parserName = "_2HTMLParserVersion3ID"
      ∧ IsSnakeCase parserName (snake parserName)
      ∧ IsPascalCase parserName (pascal parserName) := by
  have hname : isName parserName = true := by decide
  have hletter : ∃ c ∈ parserName.toList, c ≠ '_' := ⟨'H', by decide, by decide⟩
  obtain ⟨hsnake, hpascal⟩ := casing_keeps_letters hname
  exact ⟨hname, hletter, by decide, by decide, hsnake, hpascal hletter⟩

end Name
end QueryBuilder
