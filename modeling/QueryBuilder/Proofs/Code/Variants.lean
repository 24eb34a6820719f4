import QueryBuilder.Proofs.Code.Closed
import QueryBuilder.Proofs.Code.CodeLines
import QueryBuilder.Proofs.Code.Namespace
import QueryBuilder.Proofs.Name.Pascal

/-!
# Variants stand for values

The variants of a generated enum follow the convention of the generated source, and their
identifiers do not show what the values are called in the schema.  What connects the two are two
tables in the source: the attribute above each variant, by which it is decoded, and the arms of
`as_str`, by which it is encoded.

## What is here

* `renamed?`, `variant?`, `arm?` — reading a line of source, whatever it was printed from.
* `decodings`, `arms` — the two tables in some lines.
* `Reads` — what the tables are in some lines, put together as the lines are.
* `Enumeration.reads_lines` — what they are in a generated enum: each variant has an entry, and
  nothing else in the source reads like one.
* `Enumeration.Corresponds` — variants and values correspond one to one.
* `variants_correspond` — those of every enum do; and the variants for the possible types of an
  interface or union are different as well.

Identifiers are different because Pascal case leaves no room for the escapes of keywords
(`Name.Scope.nodup_claimAll_pascal`).  The possible types of a type may be listed twice, so there
the names that are claimed need not be different.
-/

set_option autoImplicit false

namespace QueryBuilder
namespace Code

open Schema

/-! ## Reading lines -/

/-- The characters of identifiers, with the mark of raw ones. -/
def isIdentChar (c : Char) : Bool :=
  Name.isNameChar c || c == '#'

/-- The word behind an opening, and what comes after it. -/
def wordBehind? (opening : String) (cs : List Char) : Option (String × List Char) :=
  (opening.toList.isPrefixOf? cs).map fun rest ↦
    (String.ofList (rest.takeWhile isIdentChar), rest.dropWhile isIdentChar)

/-- The name that the variant on the next line is decoded from. -/
def renamed? (text : String) : Option String :=
  match wordBehind? "#[serde(rename = \"" text.toList with
  | some (name, rest) => if rest = "\")]".toList then some name else none
  | none => none

/-- The variant that a line declares. -/
def variant? (text : String) : Option String :=
  match wordBehind? "" text.toList with
  | some (ident, rest) => if rest = [','] then some ident else none
  | none => none

/-- The variant that an arm is for, and the name that it is encoded as. -/
def arm? (text : String) : Option (String × String) :=
  match wordBehind? "Self::" text.toList with
  | some (ident, rest) =>
    match wordBehind? " => \"" rest with
    | some (name, rest) => if rest = "\",".toList then some (ident, name) else none
    | none => none
  | none => none

/-- The names that variants are decoded from, each with its variant. -/
def decodings : List String → List (String × String)
  | [] => []
  | text :: rest =>
    match renamed? text, rest.head?.bind variant? with
    | some name, some ident => (name, ident) :: decodings rest
    | _, _ => decodings rest

/-- The arms of `as_str`: the variants, each with the name that it is encoded as. -/
def arms (texts : List String) : List (String × String) :=
  texts.filterMap arm?

/-- The variant that a name is decoded to. -/
def decode? (texts : List String) (name : String) : Option String :=
  (decodings texts).lookup name

/-- What `as_str` says of a variant. -/
def asStr? (texts : List String) (ident : String) : Option String :=
  (arms texts).lookup ident

/-- The lines of an enum, without their indentation. -/
def Enumeration.texts (e : Enumeration) : List String :=
  e.lines.map (·.text)

/-- The variants of a generated enum correspond to the values of a type, which have these names. -/
structure Enumeration.Corresponds (e : Enumeration) (names : List String) : Prop where
  /-- There is one variant for each value, in order. -/
  values : e.variants.map (·.value) = names
  /-- Variants are different. -/
  nodup_idents : (e.variants.map (·.ident)).Nodup
  /-- A variant is decoded from the name of its value, -/
  decodings_eq : decodings e.texts = e.variants.map fun v ↦ (v.value, v.ident)
  /-- and encoded as the name of its value. -/
  arms_eq : arms e.texts = e.variants.map fun v ↦ (v.ident, v.value)
  /-- Every name is decoded. -/
  decode?_isSome : ∀ name ∈ names, (decode? e.texts name).isSome = true
  /-- Every variant is encoded. -/
  asStr?_isSome : ∀ v ∈ e.variants, (asStr? e.texts v.ident).isSome = true
  /-- Encoding undoes decoding, and the other way round. -/
  asStr?_eq_some_iff : ∀ name ident,
    asStr? e.texts ident = some name ↔ decode? e.texts name = some ident
  /-- Variants are encoded differently. -/
  asStr?_inj : ∀ ident ident' name,
    asStr? e.texts ident = some name → asStr? e.texts ident' = some name → ident = ident'

/-! ## Words -/

theorem isIdentChar_of_isNameChar {c : Char} (h : Name.isNameChar c = true) :
    isIdentChar c = true := by
  rw [isIdentChar, h, Bool.true_or]

/-- Names are quoted as they are. -/
theorem toList_quoted {name : String} (h : Name.isName name = true) :
    (Text.quoted name).toList = '"' :: (name.toList ++ ['"']) := by
  have hchar : ∀ c ∈ name.toList, Text.quotedChar c = [c] := by
    intro c hc
    have hname := Name.isNameChar_of_isName h hc
    exact Name.of_isAscii (p := fun c ↦ Name.isNameChar c = true → Text.quotedChar c = [c])
      (by decide +kernel) (Name.isAscii_of_isNameChar hname) hname
  rw [Text.quoted, String.toList_ofList, List.flatMap_congr hchar, List.flatMap_singleton']

/-- Keywords are escaped in the characters of identifiers. -/
theorem isIdentChar_of_mem_escape {s : String} (h : Name.isWord s = true) :
    ∀ c ∈ (Name.escape s).toList, isIdentChar c = true := by
  have hword : ∀ c ∈ s.toList, isIdentChar c = true :=
    fun c hc ↦ isIdentChar_of_isNameChar (Name.isWord_iff.1 h c hc)
  rw [Name.escape]
  split_ifs
  · rw [String.toList_append, List.forall_mem_append]
    exact ⟨hword, List.all_eq_true.1 (by decide)⟩
  · rw [String.toList_append, List.forall_mem_append]
    exact ⟨List.all_eq_true.1 (by decide), hword⟩
  · exact hword

/-- What is claimed for names is spelled in the characters of identifiers. -/
theorem isIdentChar_of_mem_claimAll {scope : Name.Scope} {names : List String}
    (hnames : ∀ name ∈ names, Name.isName name = true) {ident : String}
    (h : ident ∈ (scope.claimAll names).1) : ∀ c ∈ ident.toList, isIdentChar c = true := by
  rw [Name.Scope.idents_claimAll] at h
  obtain ⟨free, hfree, rfl⟩ := List.mem_map.1 h
  obtain ⟨name, hname, n, rfl⟩ := Name.Scope.exists_candidate_of_mem_freeAll hfree
  have hbase := Name.isWord_iff.2 (scope.convention.isNameChar_apply (hnames name hname))
  exact isIdentChar_of_mem_escape (Name.isWord_candidate hbase n)

/-- Reading a word undoes writing it. -/
theorem wordBehind?_append {opening word : String} {c : Char}
    (hword : ∀ c ∈ word.toList, isIdentChar c = true) (hc : ¬ isIdentChar c = true)
    (rest : List Char) :
    wordBehind? opening (opening.toList ++ (word.toList ++ c :: rest))
      = some (word, c :: rest) := by
  rw [wordBehind?, List.isPrefixOf?_eq_some_iff_append_eq.2 rfl, Option.map_some,
    List.takeWhile_append_of_pos hword, List.dropWhile_append_of_pos hword,
    List.takeWhile_cons_of_neg hc, List.dropWhile_cons_of_neg hc, List.append_nil,
    String.ofList_toList]

/-! ## Lines outside the tables -/

/-- The line is in neither table: it gives no name to a variant, and it is no arm. -/
structure IsSilent (text : String) : Prop where
  renamed? : renamed? text = none
  arm? : arm? text = none

instance : DecidablePred IsSilent := fun text ↦
  decidable_of_iff (renamed? text = none ∧ arm? text = none)
    ⟨fun h ↦ ⟨h.1, h.2⟩, fun h ↦ ⟨h.1, h.2⟩⟩

theorem renamed?_eq_none {text : String}
    (h : "#[serde(rename = \"".toList.isPrefixOf? text.toList = none) : renamed? text = none := by
  rw [renamed?, wordBehind?, h, Option.map_none]

theorem arm?_eq_none {text : String} (h : "Self::".toList.isPrefixOf? text.toList = none) :
    arm? text = none := by
  rw [arm?, wordBehind?, h, Option.map_none]

theorem isPrefixOf?_eq_none {c : Char} {opening cs : List Char} (hopening : c ∈ opening)
    (hcs : c ∉ cs) : opening.isPrefixOf? cs = none := by
  refine Option.eq_none_iff_forall_ne_some.2 fun rest h ↦ hcs ?_
  rw [← List.isPrefixOf?_eq_some_iff_append_eq.1 h]
  exact List.mem_append_left _ hopening

/-- Whether a text starts neither like an attribute nor like a path from `Self`. -/
def startsOtherwise (text : String) : Bool :=
  text.toList.head?.any fun c ↦ c != '#' && c != 'S'

theorem startsOtherwise_iff {text : String} : startsOtherwise text = true ↔
    ∃ c cs, text.toList = c :: cs ∧ c ≠ '#' ∧ c ≠ 'S' := by
  rw [startsOtherwise]
  cases text.toList <;> simp

theorem startsOtherwise_append {s : String} (h : startsOtherwise s = true) (t : String) :
    startsOtherwise (s ++ t) = true := by
  obtain ⟨c, cs, hs, hc⟩ := startsOtherwise_iff.1 h
  have happend : (s ++ t).toList = c :: (cs ++ t.toList) := by
    rw [String.toList_append, hs, List.cons_append]
  exact startsOtherwise_iff.2 ⟨c, _, happend, hc⟩

theorem isSilent_of_startsOtherwise {text : String} (h : startsOtherwise text = true) :
    IsSilent text := by
  obtain ⟨c, cs, htext, hhash, hself⟩ := startsOtherwise_iff.1 h
  exact ⟨renamed?_eq_none (by simp [htext, List.isPrefixOf?, hhash.symm]),
    arm?_eq_none (by simp [htext, List.isPrefixOf?, hself.symm])⟩

/-- Documentation is in neither table, whatever it says. -/
theorem isSilent_of_isDocumentation {text : String} (h : isDocumentation text.toList = true) :
    IsSilent text := by
  rw [isDocumentation] at h
  cases htext : text.toList with
  | nil =>
    rw [htext] at h
    exact absurd h (by decide)
  | cons c cs =>
    by_cases hspace : c = ' '
    · exact isSilent_of_startsOtherwise
        (startsOtherwise_iff.2 ⟨' ', cs, hspace ▸ htext, by decide⟩)
    · have hdrop : (c :: cs).dropWhile (· == ' ') = c :: cs :=
        List.dropWhile_cons_of_neg (by simpa using hspace)
      rw [htext, hdrop, Bool.or_eq_true, List.isPrefixOf_iff_prefix,
        List.isPrefixOf_iff_prefix] at h
      rcases h with ⟨rest, hrest⟩ | ⟨rest, hrest⟩ <;> rw [← hrest] at htext
      · exact isSilent_of_startsOtherwise (startsOtherwise_iff.2 ⟨'/', _, htext, by decide⟩)
      · refine ⟨renamed?_eq_none ?_, arm?_eq_none ?_⟩ <;> simp [htext, List.isPrefixOf?]

/-! ## The lines of a variant -/

namespace Variant

/-- The value has a name and the variant an identifier, as far as readers can tell. -/
structure IsLegible (v : Variant) : Prop where
  value : Name.isName v.value = true
  ident : ∀ c ∈ v.ident.toList, isIdentChar c = true

variable {v : Variant}

theorem IsLegible.isIdentChar_of_mem_value (h : v.IsLegible) :
    ∀ c ∈ v.value.toList, isIdentChar c = true :=
  fun _ hc ↦ isIdentChar_of_isNameChar (Name.isNameChar_of_isName h.value hc)

/-- The attribute of a variant is read as the name of its value. -/
theorem renamed?_renameLine (h : v.IsLegible) : renamed? v.renameLine.text = some v.value := by
  have htext : v.renameLine.text = "#[serde(rename = " ++ Text.quoted v.value ++ ")]" := rfl
  have hchars : v.renameLine.text.toList
      = "#[serde(rename = \"".toList ++ (v.value.toList ++ '"' :: ")]".toList) := by
    simp [htext, toList_quoted h.value]
  rw [renamed?, hchars, wordBehind?_append h.isIdentChar_of_mem_value (by decide)]
  rfl

/-- The line below is read as the variant. -/
theorem variant?_declaration (h : v.IsLegible) : variant? (v.ident ++ ",") = some v.ident := by
  have hchars : (v.ident ++ ",").toList = "".toList ++ (v.ident.toList ++ ',' :: []) := by
    simp
  rw [variant?, hchars, wordBehind?_append h.ident (by decide)]
  rfl

/-- An arm is read as the variant and the name of its value. -/
theorem arm?_armLine (h : v.IsLegible) : arm? v.armLine.text = some (v.ident, v.value) := by
  have htext : v.armLine.text = "Self::" ++ v.ident ++ " => " ++ Text.quoted v.value ++ "," := rfl
  have hchars : v.armLine.text.toList = "Self::".toList
      ++ (v.ident.toList ++ ' ' :: ("=> \"".toList ++ (v.value.toList ++ '"' :: ",".toList))) := by
    simp [htext, toList_quoted h.value]
  have hname : wordBehind? " => \""
        (' ' :: ("=> \"".toList ++ (v.value.toList ++ '"' :: ",".toList)))
      = some (v.value, '"' :: ",".toList) :=
    wordBehind?_append h.isIdentChar_of_mem_value (by decide) _
  rw [arm?, hchars, wordBehind?_append h.ident (by decide)]
  dsimp only
  rw [hname]
  rfl

theorem renamed?_armLine (v : Variant) : renamed? v.armLine.text = none := by
  have htext : v.armLine.text
      = "Self::" ++ (v.ident ++ " => " ++ Text.quoted v.value ++ ",") := by
    simp only [armLine, line, String.append_assoc]
    rfl
  refine renamed?_eq_none ?_
  simp [htext, List.isPrefixOf?]

/-- Identifiers have no brackets and colons, so a declaration is in neither table by itself. -/
theorem isSilent_declaration (h : v.IsLegible) : IsSilent (v.ident ++ ",") := by
  have hchar {c : Char} (hc : isIdentChar c = false) (hcomma : c ≠ ',') :
      c ∉ (v.ident ++ ",").toList := by
    rw [String.toList_append, List.mem_append, not_or]
    refine ⟨fun hmem ↦ ?_, fun hmem ↦ hcomma (List.mem_singleton.1 hmem)⟩
    exact absurd (h.ident c hmem) (by simp [hc])
  exact ⟨renamed?_eq_none (isPrefixOf?_eq_none (c := '[') (by decide) (hchar rfl (by decide))),
    arm?_eq_none (isPrefixOf?_eq_none (c := ':') (by decide) (hchar rfl (by decide)))⟩

theorem arm?_renameLine (v : Variant) : arm? v.renameLine.text = none := by
  have htext : v.renameLine.text
      = "#[serde(rename = " ++ (Text.quoted v.value ++ ")]") := by
    simp only [renameLine, line, String.append_assoc]
    rfl
  refine arm?_eq_none ?_
  simp [htext, List.isPrefixOf?]

end Variant

/-! ## Tables -/

/-- The entries of some lines in the two tables.  What variants are decoded from does not depend on
the lines below. -/
structure Reads (ls : List Line) (ds as : List (String × String)) : Prop where
  decodings : ∀ rest, decodings (ls.map (·.text) ++ rest) = ds ++ decodings rest
  arms : arms (ls.map (·.text)) = as

namespace Reads

variable {ls ms : List Line} {ds ds' as as' : List (String × String)}

theorem append (h : Reads ls ds as) (h' : Reads ms ds' as') :
    Reads (ls ++ ms) (ds ++ ds') (as ++ as') where
  decodings rest := by
    rw [List.map_append, List.append_assoc, h.decodings, h'.decodings, List.append_assoc]
  arms := by
    rw [Code.arms, List.map_append, List.filterMap_append, ← Code.arms, ← Code.arms, h.arms,
      h'.arms]

theorem nil : Reads [] [] [] where
  decodings _ := rfl
  arms := rfl

theorem flatMap {α : Type} {f : α → List Line} {d a : α → List (String × String)} {l : List α}
    (h : ∀ x ∈ l, Reads (f x) (d x) (a x)) : Reads (l.flatMap f) (l.flatMap d) (l.flatMap a) := by
  induction l with
  | nil => exact nil
  | cons x l ih =>
    obtain ⟨hx, hl⟩ := List.forall_mem_cons.1 h
    simp only [List.flatMap_cons]
    exact hx.append (ih hl)

theorem singleton {l : Line} (h : renamed? l.text = none) :
    Reads [l] [] (arm? l.text).toList where
  decodings rest := by
    simp only [List.map_cons, List.map_nil, List.cons_append, List.nil_append, Code.decodings, h]
  arms := by
    rw [Code.arms, List.map_singleton]
    cases h : arm? l.text <;> simp [h]

theorem silent_cons {l : Line} (hl : IsSilent l.text) (h : Reads ls ds as) :
    Reads (l :: ls) ds as := by
  have hline := singleton hl.renamed?
  rw [hl.arm?] at hline
  exact hline.append h

theorem silents (h : ∀ l ∈ ls, IsSilent l.text) : Reads ls [] [] := by
  induction ls with
  | nil => exact nil
  | cons l ls ih =>
    obtain ⟨hl, hls⟩ := List.forall_mem_cons.1 h
    exact silent_cons hl (ih hls)

theorem silent_append (h : Reads ls [] []) (h' : Reads ms ds as) : Reads (ls ++ ms) ds as :=
  h.append h'

theorem append_silent (h : Reads ls ds as) (h' : Reads ms [] []) : Reads (ls ++ ms) ds as := by
  have happend := h.append h'
  rwa [List.append_nil, List.append_nil] at happend

theorem append_arms (h : Reads ls ds []) (h' : Reads ms [] as) : Reads (ls ++ ms) ds as := by
  have happend := h.append h'
  rwa [List.append_nil] at happend

/-- Indentation and braces do not count. -/
theorem braced {opening : String} (hopening : IsSilent (opening ++ " \x7b")) (h : Reads ls ds as) :
    Reads (braced opening ls) ds as := by
  have hindent : Reads (indent ls) ds as := by
    have htexts : (indent ls).map (·.text) = ls.map (·.text) := List.map_map ..
    exact ⟨htexts ▸ h.decodings, htexts ▸ h.arms⟩
  have hclosing : IsSilent "\x7d" := isSilent_of_startsOtherwise (by decide)
  exact silent_cons hopening (hindent.append_silent (silent_cons hclosing nil))

end Reads

theorem Reads.documentation {ls : List Line} (h : ∀ l ∈ ls, OpensDocumentation l.text.toList) :
    Reads ls [] [] :=
  .silents fun l hl ↦ isSilent_of_isDocumentation (by simpa using (h l hl).isDocumentation [])

/-- **The lines of a variant make one entry**, whatever its documentation says. -/
theorem Variant.reads_lines {v : Variant} (h : v.IsLegible) :
    Reads v.lines [(v.value, v.ident)] [] := by
  have hentry : Reads [v.renameLine, line (v.ident ++ ",")] [(v.value, v.ident)] [] := by
    constructor
    · intro rest
      simp only [List.map_cons, List.map_nil, List.cons_append, List.nil_append, decodings,
        renamed?_renameLine h, List.head?_cons, Option.bind_some, line, variant?_declaration h,
        (isSilent_declaration h).renamed?]
    · refine List.filterMap_eq_nil_iff.2 ?_
      simp [line, arm?_renameLine, (isSilent_declaration h).arm?]
  have hdocs : Reads (docLines v.description? ++ deprecationLines v.deprecation?) [] [] :=
    .silent_append (.documentation opensDocumentation_of_mem_docLines)
      (.documentation opensDocumentation_of_mem_deprecationLines)
  exact hdocs.silent_append hentry

theorem Variant.reads_armLine {v : Variant} (h : v.IsLegible) :
    Reads [v.armLine] [] [(v.ident, v.value)] := by
  have harm := Reads.singleton (renamed?_armLine v)
  rwa [arm?_armLine h] at harm

/-- **The tables of a generated enum have an entry for each variant, and no others.** -/
theorem Enumeration.reads_lines {e : Enumeration} (h : ∀ v ∈ e.variants, v.IsLegible) :
    Reads e.lines (e.variants.map fun v ↦ (v.value, v.ident))
      (e.variants.map fun v ↦ (v.ident, v.value)) := by
  have hnone : e.variants.flatMap (fun _ ↦ ([] : List (String × String))) = [] :=
    List.flatMap_eq_nil_iff.2 fun _ _ ↦ rfl
  have hvariants : Reads (e.variants.flatMap Variant.lines)
      (e.variants.map fun v ↦ (v.value, v.ident)) [] := by
    have hflat := Reads.flatMap fun v hv ↦ Variant.reads_lines (h v hv)
    rwa [← List.map_eq_flatMap, hnone] at hflat
  have harms : Reads (e.variants.map Variant.armLine) []
      (e.variants.map fun v ↦ (v.ident, v.value)) := by
    have hflat := Reads.flatMap fun v hv ↦ Variant.reads_armLine (h v hv)
    rwa [← List.map_eq_flatMap, ← List.map_eq_flatMap, hnone] at hflat
  have hmatch : Reads (if e.variants.isEmpty then [line "match self \x7b\x7d"]
      else Code.braced "match self" (e.variants.map Variant.armLine)) []
      (e.variants.map fun v ↦ (v.ident, v.value)) := by
    split_ifs with hempty
    · rw [List.isEmpty_iff.1 hempty]
      exact .silents (by decide)
    · exact harms.braced (by decide)
  have hsilent {s t : String} (h : startsOtherwise s = true) : IsSilent (s ++ t) :=
    isSilent_of_startsOtherwise (startsOtherwise_append h t)
  have hblank : Reads [blank] [] [] := .silents (by decide)
  simp only [lines]
  refine .append_silent (.append_silent (.append_arms (.append_silent (.silent_append ?head ?enum)
    hblank) ?impl) hblank) ?encoding
  case head =>
    exact .silent_append (.silent_append (.silents (by decide))
      (.documentation opensDocumentation_of_mem_docLines)) (.silents (by decide +kernel))
  case enum => exact hvariants.braced (hsilent (startsOtherwise_append (by decide) _))
  case impl =>
    have hasStr : IsSilent ("pub const fn as_str(self) -> &'static str" ++ " \x7b") := by decide
    exact .braced (hsilent (startsOtherwise_append (by decide) _))
      (.silent_cons (by decide) (hmatch.braced hasStr))
  case encoding =>
    exact .braced (hsilent (startsOtherwise_append (by decide) _))
      (.braced (by decide) (.silents (by decide)))

/-! ## Variants and values -/

/-- A value of a key that occurs once is what is found for the key. -/
theorem lookup_eq_some_iff_mem {l : List (String × String)} (h : (l.map Prod.fst).Nodup)
    {key value : String} : l.lookup key = some value ↔ (key, value) ∈ l := by
  rw [List.lookup_eq_some_iff]
  constructor
  · rintro ⟨before, behind, rfl, -⟩
    exact List.mem_append_right _ List.mem_cons_self
  · intro hmem
    obtain ⟨before, behind, rfl⟩ := List.append_of_mem hmem
    refine ⟨before, behind, rfl, fun entry hentry ↦ bne_iff_ne.2 fun heq ↦ ?_⟩
    rw [List.map_append, List.map_cons, List.nodup_middle, List.nodup_cons] at h
    have hkey : entry.1 ∈ before.map Prod.fst := List.mem_map_of_mem hentry
    exact h.1 (List.mem_append_left _ (heq ▸ hkey))

section

variable {values : List EnumValue}

theorem map_value_variantsOf : (variantsOf values).map (·.value) = values.map (·.name) := by
  simp only [variantsOf, Variant.ofValue, List.map_map, Function.comp_def]
  exact map_zip_fst EnumValue.name (by simp)

theorem map_ident_variantsOf : (variantsOf values).map (·.ident)
    = ((Name.Scope.ofReserved .pascal []).claimAll (values.map (·.name))).1 := by
  simp only [variantsOf, Variant.ofValue, List.map_map, Function.comp_def]
  exact List.map_snd_zip (by simp)

theorem isLegible_variantsOf (hnames : ∀ v ∈ values, Name.isName v.name = true) :
    ∀ v ∈ variantsOf values, v.IsLegible := by
  have hnames' : ∀ name ∈ values.map (·.name), Name.isName name = true :=
    List.forall_mem_map.2 hnames
  intro v hv
  have hvalue : v.value ∈ values.map (·.name) :=
    map_value_variantsOf ▸ List.mem_map_of_mem hv
  have hident : v.ident ∈ ((Name.Scope.ofReserved .pascal []).claimAll (values.map (·.name))).1 :=
    map_ident_variantsOf ▸ List.mem_map_of_mem hv
  exact ⟨hnames' _ hvalue, isIdentChar_of_mem_claimAll hnames' hident⟩

end

/-- Variants correspond to values if neither identifiers nor names are repeated. -/
theorem Enumeration.corresponds {e : Enumeration} (h : ∀ v ∈ e.variants, v.IsLegible)
    (hidents : (e.variants.map (·.ident)).Nodup) (hvalues : (e.variants.map (·.value)).Nodup) :
    e.Corresponds (e.variants.map (·.value)) := by
  have hdecodings : decodings e.texts = e.variants.map fun v ↦ (v.value, v.ident) := by
    have := (reads_lines h).decodings []
    rwa [List.append_nil, decodings, List.append_nil] at this
  have harms : arms e.texts = e.variants.map fun v ↦ (v.ident, v.value) := (reads_lines h).arms
  have hdecode {name ident : String} : decode? e.texts name = some ident
      ↔ ∃ v ∈ e.variants, v.value = name ∧ v.ident = ident := by
    rw [decode?, hdecodings, lookup_eq_some_iff_mem (by rwa [List.map_map])]
    simp
  have hasStr {name ident : String} : asStr? e.texts ident = some name
      ↔ ∃ v ∈ e.variants, v.value = name ∧ v.ident = ident := by
    rw [asStr?, harms, lookup_eq_some_iff_mem (by rwa [List.map_map])]
    simp [and_comm]
  exact {
    values := rfl
    nodup_idents := hidents
    decodings_eq := hdecodings
    arms_eq := harms
    decode?_isSome name hname := by
      obtain ⟨v, hv, rfl⟩ := List.mem_map.1 hname
      exact Option.isSome_iff_exists.2 ⟨_, hdecode.2 ⟨v, hv, rfl, rfl⟩⟩
    asStr?_isSome v hv := Option.isSome_iff_exists.2 ⟨_, hasStr.2 ⟨v, hv, rfl, rfl⟩⟩
    asStr?_eq_some_iff name ident := hasStr.trans hdecode.symm
    asStr?_inj ident ident' name h h' := by
      obtain ⟨v, hv, hvalue, rfl⟩ := hasStr.1 h
      obtain ⟨v', hv', hvalue', rfl⟩ := hasStr.1 h'
      rw [List.inj_on_of_nodup_map hvalues hv hv' (hvalue.trans hvalue'.symm)] }

/-- The variants for possible types are claimed for their names. -/
theorem map_variant_members (g : TypeGraph) (names : Names) (t : NamedType) (fields : List Field) :
    (Member.ofType g names t fields).map (·.variant)
      = ((Name.Scope.ofReserved .pascal []).claimAll ((memberIds names t).map g.nameOf)).1 := by
  simp only [Member.ofType, List.map_map]
  refine Eq.trans (List.map_map (g := Prod.fst) (f := Prod.snd)).symm ?_
  rw [List.map_snd_zip (by simp), List.map_fst_zip (by simp)]

/-- **The variants of a generated enum correspond to the values of its type one to one**, if these
have different names.  The variants for the possible types of an interface or union are different
if these have names, even if some of them are listed twice. -/
theorem variants_correspond (g : TypeGraph) (options : Options) (names : Names) (id : TypeId)
    (t : NamedType) :
    (∀ values, t.body = .enum values → (∀ v ∈ values, Name.isName v.name = true) →
        (values.map (·.name)).Nodup →
      ∃ e, Declaration.ofType? g options names id t = some (.enumeration e)
        ∧ e.Corresponds (values.map (·.name)))
      ∧ (t.kind.isAbstract = true → (∀ m ∈ memberIds names t, Name.isName (g.nameOf m) = true) →
        ∃ c, Declaration.ofType? g options names id t = some (.composite c)
          ∧ c.members.map (·.typeName) = (memberIds names t).map g.nameOf
          ∧ (c.members.map (·.variant)).Nodup) := by
  constructor
  · intro values hbody hnames hnodup
    refine ⟨Enumeration.ofType names id t values, by rw [Declaration.ofType?, hbody], ?_⟩
    have hidents : ((variantsOf values).map (·.ident)).Nodup := by
      rw [map_ident_variantsOf]
      exact Name.Scope.nodup_claimAll_pascal rfl (List.forall_mem_map.2 hnames)
    rw [← map_value_variantsOf] at hnodup ⊢
    exact Enumeration.corresponds (isLegible_variantsOf hnames) hidents hnodup
  · intro habstract hnames
    have hcomposite : Declaration.ofType? g options names id t
        = some (.composite (Composite.ofType g options names id t)) := by
      rw [NamedType.kind] at habstract
      rw [Declaration.ofType?]
      cases hbody : t.body with
      | object | interface | union => rfl
      | enum | scalar | inputObject =>
        rw [hbody] at habstract
        cases habstract
    refine ⟨_, hcomposite, map_members names _ t (·.typeName) g.nameOf fun _ _ _ ↦ rfl, ?_⟩
    rw [Composite.ofType, map_variant_members]
    exact Name.Scope.nodup_claimAll_pascal rfl (List.forall_mem_map.2 hnames)

/-- The values of an enum, most of which are one word in Pascal case.  A description looks like an
entry of a table. -/
def stageValues : List EnumValue := [
  ⟨"IN_REVIEW", some "Self::Done => \"DONE\",", none⟩,
  ⟨"inReview", none, some ⟨some "Use IN_REVIEW."⟩⟩,
  ⟨"InReview2", none, none⟩,
  ⟨"InReview", none, none⟩,
  ⟨"Self", none, none⟩,
  ⟨"SELF_", some "#[serde(rename = \"SELF\")]\nDone,", none⟩,
  ⟨"_1ST", none, none⟩,
  ⟨"__", none, none⟩]

/-- A graph with an enum and a union, which lists one of its possible types twice. -/
def stageGraph : TypeGraph where
  types := [
    ⟨"Stage", none, .enum stageValues⟩,
    ⟨"Any", none, .union [⟨2⟩, ⟨3⟩, ⟨2⟩]⟩,
    ⟨"Self_part", none, .object [⟨"stage", none, .named ⟨0⟩, [], none⟩] []⟩,
    ⟨"selfPart", none, .object [⟨"any", none, .named ⟨1⟩, [], none⟩] []⟩]
  roots := ⟨some ⟨2⟩, none, none⟩

theorem variants_correspond_stageGraph :
    (∀ v ∈ stageValues, Name.isName v.name = true) ∧ (stageValues.map (·.name)).Nodup
      ∧ (∃ e, Declaration.ofType? stageGraph .default (.ofGraph stageGraph .default) ⟨0⟩
            ⟨"Stage", none, .enum stageValues⟩ = some (.enumeration e)
          ∧ e.Corresponds (stageValues.map (·.name))
          ∧ decodings e.texts
            = [("IN_REVIEW", "InReview"), ("inReview", "InReview2"), ("InReview2", "InReview22"),
              ("InReview", "InReview3"), ("Self", "Self_"), ("SELF_", "Self2"), ("_1ST", "_1st"),
              ("__", "Unnamed")])
      ∧ ∃ c, Declaration.ofType? stageGraph .default (.ofGraph stageGraph .default) ⟨1⟩
            ⟨"Any", none, .union [⟨2⟩, ⟨3⟩, ⟨2⟩]⟩ = some (.composite c)
          ∧ (c.members.map fun m ↦ (m.typeName, m.variant))
            = [("Self_part", "SelfPart"), ("selfPart", "SelfPart2"), ("Self_part", "SelfPart3")]
          ∧ (c.members.map (·.variant)).Nodup := by
  have hnames : ∀ v ∈ stageValues, Name.isName v.name = true := by decide
  have hnodup : (stageValues.map (·.name)).Nodup := by decide
  refine ⟨hnames, hnodup, ?_, ?_⟩
  · obtain ⟨e, he, hcorresponds⟩ := (variants_correspond stageGraph .default
      (.ofGraph stageGraph .default) ⟨0⟩ ⟨"Stage", none, .enum stageValues⟩).1 _ rfl hnames hnodup
    refine ⟨e, he, hcorresponds, ?_⟩
    rw [hcorresponds.decodings_eq]
    obtain rfl := Declaration.enumeration.inj (Option.some.inj he)
    decide +kernel
  · obtain ⟨c, hc, -, hvariants⟩ := (variants_correspond stageGraph .default
      (.ofGraph stageGraph .default) ⟨1⟩ ⟨"Any", none, .union [⟨2⟩, ⟨3⟩, ⟨2⟩]⟩).2 rfl
        (by decide +kernel)
    refine ⟨c, hc, ?_, hvariants⟩
    obtain rfl := Declaration.composite.inj (Option.some.inj hc)
    decide +kernel

end Code
end QueryBuilder
