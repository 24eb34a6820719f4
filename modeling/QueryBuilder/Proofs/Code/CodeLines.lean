import Mathlib.Data.List.Basic
import QueryBuilder.Code.Module

/-!
# Source without its documentation

A generated file is read line by line: a line that starts, behind its indentation, with a
documentation comment or a deprecation attribute is documentation, and every other line is code.

* `codeLines` — the lines of a text that are code.
* `SameCode` — two lists of lines have the same code, however deep they are put.  Every way in which
  units are built from lines keeps it.
* `OtherCode` — two lists of lines have different code, which is kept likewise.
* `OpensDocumentation` — a text is documentation up to its line break.  Descriptions and
  deprecations are (`opensDocumentation_of_mem_docLines`), so they are not code
  (`sameCode_docLines`).
* `codeLines_unitText`, `codeLines_foldl_appendSource` — files with the same code.

Indentation is spaces here.  If it could be any blanks, fewer lines would be code, and those that
agree now would still agree.
-/

set_option autoImplicit false

namespace QueryBuilder

/-! ## Texts without line breaks -/

namespace Text

theorem mem_of_mem_trimEndChars {cs : List Char} {c : Char} (h : c ∈ trimEndChars cs) : c ∈ cs :=
  List.mem_reverse.1 (List.dropWhile_subset _ (List.mem_reverse.1 h))

theorem mem_of_mem_trimEnd {s : String} {c : Char} (h : c ∈ (trimEnd s).toList) : c ∈ s.toList := by
  rw [trimEnd, String.toList_ofList] at h
  exact mem_of_mem_trimEndChars h

theorem mem_of_mem_trim {s : String} {c : Char} (h : c ∈ (trim s).toList) : c ∈ s.toList := by
  rw [trim, String.toList_ofList] at h
  exact List.dropWhile_subset _ (mem_of_mem_trimEndChars h)

theorem newline_not_mem_lineChars (cs : List Char) : ∀ l ∈ lineChars cs, '\n' ∉ l := by
  induction cs using lineChars.induct with
  | case1 => exact fun _ h ↦ absurd h List.not_mem_nil
  | case2 cs ih =>
    rw [lineChars]
    exact List.forall_mem_cons.2 ⟨List.not_mem_nil, ih⟩
  | case3 cs ih =>
    rw [lineChars]
    exact List.forall_mem_cons.2 ⟨List.not_mem_nil, ih⟩
  | case4 c cs hline hreturn hnil ih =>
    rw [lineChars, hnil, List.forall_mem_singleton, List.mem_singleton]
    · exact fun h ↦ hline h.symm
    · exact hline
    · exact hreturn
  | case5 c cs hline hreturn line rest heq ih =>
    obtain ⟨hfirst, hrest⟩ := List.forall_mem_cons.1 (heq ▸ ih)
    rw [lineChars, heq, List.forall_mem_cons, List.mem_cons, not_or]
    · exact ⟨⟨fun h ↦ hline h.symm, hfirst⟩, hrest⟩
    · exact hline
    · exact hreturn

theorem newline_not_mem_of_mem_lines {s l : String} (h : l ∈ lines s) : '\n' ∉ l.toList := by
  obtain ⟨cs, hcs, rfl⟩ := List.mem_map.1 h
  rw [String.toList_ofList]
  exact newline_not_mem_lineChars _ cs hcs

theorem newline_not_mem_hexDigits (n : Nat) : '\n' ∉ hexDigits n := by
  have hdigit : ∀ d < 16, '\n' ≠ hexDigit d := by decide
  induction n using hexDigits.induct with
  | case1 n hlt =>
    rw [hexDigits, if_pos hlt, List.mem_singleton]
    exact hdigit n hlt
  | case2 n hle ih =>
    rw [hexDigits, if_neg hle, List.mem_append, List.mem_singleton, not_or]
    exact ⟨ih, hdigit _ (Nat.mod_lt _ (by decide))⟩

theorem newline_not_mem_quoted (s : String) : '\n' ∉ (quoted s).toList := by
  have hchar (c : Char) : '\n' ∉ quotedChar c := by
    rw [quotedChar]
    split_ifs with h1 h2 h3 h4 h5 h6 h7
    · decide
    · decide
    · decide
    · decide
    · decide
    · decide
    · simp [newline_not_mem_hexDigits]
    · rw [List.mem_singleton]
      exact fun h ↦ h3 h.symm
  rw [quoted, String.toList_ofList]
  simp [hchar]

end Text

namespace Code

/-! ## Lines of a text -/

/-- Whether a line is documentation: behind spaces it starts as a documentation comment or as a
deprecation attribute does. -/
def isDocumentation (cs : List Char) : Bool :=
  let text := cs.dropWhile (· == ' ')
  "///".toList.isPrefixOf text || "#[deprecated".toList.isPrefixOf text

/-- The lines of a list of characters that are code, without their line breaks. -/
def codeChars (cs : List Char) : List (List Char) :=
  (cs.splitOn '\n').filter fun l ↦ !isDocumentation l

/-- The lines of a text that are code. -/
def codeLines (text : String) : List (List Char) :=
  codeChars text.toList

theorem codeChars_append_newline (cs ds : List Char) :
    codeChars (cs ++ '\n' :: ds) = codeChars cs ++ codeChars ds := by
  rw [codeChars, List.splitOn_append_cons_self, List.filter_append, codeChars, codeChars]

theorem isDocumentation_append {spaces : List Char} (h : ∀ c ∈ spaces, c = ' ') (cs : List Char) :
    isDocumentation (spaces ++ cs) = isDocumentation cs := by
  have hspaces : ∀ c ∈ spaces, (c == ' ') = true := fun c hc ↦ beq_iff_eq.2 (h c hc)
  rw [isDocumentation, List.dropWhile_append_of_pos hspaces, isDocumentation]

theorem isDocumentation_comment (cs : List Char) :
    isDocumentation ('/' :: '/' :: '/' :: cs) = true := by
  simp [isDocumentation]

theorem isDocumentation_deprecated (cs : List Char) :
    isDocumentation ("#[deprecated".toList ++ cs) = true := by
  simp [isDocumentation]

theorem splitOn_append_of_not_mem {cs : List Char} (h : '\n' ∉ cs) (ds : List Char) :
    (cs ++ ds).splitOn '\n' = (ds.splitOn '\n').modifyHead (cs ++ ·) := by
  induction cs with
  | nil => exact (congrFun List.modifyHead_id _).symm
  | cons c cs ih =>
    obtain ⟨hc, hcs⟩ := List.ne_and_not_mem_of_not_mem_cons h
    rw [List.cons_append, List.splitOn_cons_eq_if_modifyHead, ih hcs, List.modifyHead_modifyHead,
      if_neg fun heq ↦ hc (beq_iff_eq.1 heq).symm]
    rfl

/-- A beginning of documentation: whatever follows on the line, the line is documentation. -/
structure OpensDocumentation (cs : List Char) : Prop where
  isDocumentation : ∀ ds, isDocumentation (cs ++ ds) = true
  newline : '\n' ∉ cs

theorem opensDocumentation_comment (cs : List Char) (h : '\n' ∉ cs) :
    OpensDocumentation ("///".toList ++ cs) where
  isDocumentation ds := by
    rw [List.append_assoc]
    exact isDocumentation_comment _
  newline := by simp [h]

theorem opensDocumentation_deprecated (cs : List Char) (h : '\n' ∉ cs) :
    OpensDocumentation ("#[deprecated".toList ++ cs) where
  isDocumentation ds := by
    rw [List.append_assoc]
    exact isDocumentation_deprecated _
  newline := by simp [h]

theorem OpensDocumentation.indented {spaces cs : List Char} (h : OpensDocumentation cs)
    (hspaces : ∀ c ∈ spaces, c = ' ') : OpensDocumentation (spaces ++ cs) where
  isDocumentation ds := by
    rw [List.append_assoc, isDocumentation_append hspaces, h.isDocumentation]
  newline hmem := by
    rcases List.mem_append.1 hmem with hmem | hmem
    · exact absurd (hspaces _ hmem) (by decide)
    · exact h.newline hmem

/-- The code behind the first line break of a text. -/
def codeBehindBreak (cs : List Char) : List (List Char) :=
  (cs.splitOn '\n').tail.filter fun l ↦ !isDocumentation l

/-- **Documentation is not code up to its line break**, whatever it says. -/
theorem OpensDocumentation.codeChars_append {cs : List Char} (h : OpensDocumentation cs)
    (ds : List Char) : codeChars (cs ++ ds) = codeBehindBreak ds := by
  rw [codeChars, splitOn_append_of_not_mem h.newline, codeBehindBreak]
  cases hsplit : ds.splitOn '\n' with
  | nil => rfl
  | cons first rest =>
    rw [List.modifyHead_cons, List.filter_cons_of_neg (by simp [h.isDocumentation]), List.tail_cons]

/-! ## Lines -/

/-- What a line shows, without its line break. -/
def Line.chars (l : Line) : List Char :=
  if l.text.isEmpty then [] else (String.join (List.replicate l.depth "    ") ++ l.text).toList

theorem Line.toList_print (l : Line) : l.print.toList = l.chars ++ ['\n'] := by
  rw [print, chars]
  split_ifs
  · rfl
  · rw [String.toList_append]
    rfl

theorem eq_space_of_mem_indentation {n : Nat} {c : Char}
    (h : c ∈ (String.join (List.replicate n "    ")).toList) : c = ' ' := by
  induction n with
  | zero => exact absurd h List.not_mem_nil
  | succ n ih =>
    rw [List.replicate_succ, String.join_cons, String.toList_append, List.mem_append] at h
    rcases h with h | h
    · exact List.eq_of_mem_replicate (n := 4) h
    · exact ih h

/-- The code of some lines that are put at a depth. -/
def codeAt (depth : Nat) (ls : List Line) : List (List Char) :=
  ls.flatMap fun l ↦ codeChars (Line.chars { l with depth := l.depth + depth })

/-- The lines have the same code, at whatever depth they are put. -/
def SameCode (ls ms : List Line) : Prop :=
  ∀ depth, codeAt depth ls = codeAt depth ms

theorem codeAt_append (depth : Nat) (ls ms : List Line) :
    codeAt depth (ls ++ ms) = codeAt depth ls ++ codeAt depth ms :=
  List.flatMap_append

theorem codeAt_indent (depth : Nat) (ls : List Line) :
    codeAt depth (indent ls) = codeAt (depth + 1) ls := by
  rw [codeAt, indent, List.flatMap_map, codeAt]
  refine List.flatMap_congr fun l _ ↦ ?_
  rw [Nat.add_right_comm, Nat.add_assoc]

/-- **The code of a text is the code of its lines.** -/
theorem codeLines_printLines (ls : List Line) : codeLines (printLines ls) = codeAt 0 ls ++ [[]] := by
  induction ls with
  | nil => decide +kernel
  | cons l ls ih =>
    rw [codeLines, printLines, List.map_cons, String.join_cons, String.toList_append,
      Line.toList_print, List.append_assoc, List.singleton_append, codeChars_append_newline]
    rw [codeLines, printLines] at ih
    rw [ih, codeAt, codeAt, List.flatMap_cons, List.append_assoc]
    rfl

namespace SameCode

variable {ls ls' ms ms' : List Line}

theorem refl (ls : List Line) : SameCode ls ls := fun _ ↦ rfl

theorem symm (h : SameCode ls ms) : SameCode ms ls := fun depth ↦ (h depth).symm

theorem trans {ns : List Line} (h : SameCode ls ms) (h' : SameCode ms ns) : SameCode ls ns :=
  fun depth ↦ (h depth).trans (h' depth)

theorem append (h : SameCode ls ls') (h' : SameCode ms ms') : SameCode (ls ++ ms) (ls' ++ ms') := by
  intro depth
  rw [codeAt_append, codeAt_append, h, h']

theorem append_left (ns : List Line) (h : SameCode ls ms) : SameCode (ns ++ ls) (ns ++ ms) :=
  (refl ns).append h

theorem append_right (ns : List Line) (h : SameCode ls ms) : SameCode (ls ++ ns) (ms ++ ns) :=
  h.append (refl ns)

theorem cons (l : Line) (h : SameCode ls ms) : SameCode (l :: ls) (l :: ms) :=
  h.append_left [l]

theorem indent (h : SameCode ls ms) : SameCode (Code.indent ls) (Code.indent ms) := by
  intro depth
  rw [codeAt_indent, codeAt_indent, h]

theorem braced (opening : String) (h : SameCode ls ms) :
    SameCode (Code.braced opening ls) (Code.braced opening ms) :=
  (h.indent.append_right _).cons _

theorem flatMap {α : Type} {f f' : α → List Line} {l : List α} (h : ∀ a, SameCode (f a) (f' a)) :
    SameCode (l.flatMap f) (l.flatMap f') := by
  induction l with
  | nil => exact refl []
  | cons a l ih =>
    rw [List.flatMap_cons, List.flatMap_cons]
    exact (h a).append ih

theorem spaced {α : Type} {f f' : α → List Line} {l : List α} (h : ∀ a, SameCode (f a) (f' a)) :
    SameCode (Code.spaced (l.map f)) (Code.spaced (l.map f')) := by
  rw [Code.spaced, Code.spaced, List.flatMap_map, List.flatMap_map]
  exact flatMap fun a ↦ (h a).cons _

end SameCode

/-- The lines have different code, at whatever depth they are put. -/
def OtherCode (ls ms : List Line) : Prop :=
  ∀ depth, codeAt depth ls ≠ codeAt depth ms

namespace OtherCode

variable {ls ms : List Line}

theorem append_left (ns : List Line) (h : OtherCode ls ms) : OtherCode (ns ++ ls) (ns ++ ms) := by
  intro depth heq
  rw [codeAt_append, codeAt_append] at heq
  exact h depth (List.append_cancel_left heq)

theorem append_right (ns : List Line) (h : OtherCode ls ms) : OtherCode (ls ++ ns) (ms ++ ns) := by
  intro depth heq
  rw [codeAt_append, codeAt_append] at heq
  exact h depth (List.append_cancel_right heq)

theorem braced (opening : String) (h : OtherCode ls ms) :
    OtherCode (Code.braced opening ls) (Code.braced opening ms) := by
  refine append_left [line (opening ++ " \x7b")] (append_right _ fun depth heq ↦ ?_)
  rw [codeAt_indent, codeAt_indent] at heq
  exact h _ heq

end OtherCode

/-! ## Documentation -/

/-- What a line of documentation has of code is behind its first line break. -/
theorem OpensDocumentation.codeAt_line {opening : String}
    (h : OpensDocumentation opening.toList) (rest : String) (depth : Nat) :
    codeAt depth [line (opening ++ rest)] = codeBehindBreak rest.toList := by
  have hnonempty : (opening ++ rest).isEmpty = false := by
    rw [Bool.eq_false_iff, ne_eq, String.isEmpty_iff, ← String.toList_inj, String.toList_append]
    intro hempty
    have hdoc := h.isDocumentation rest.toList
    rw [hempty] at hdoc
    cases hdoc
  have hindented := h.indented (fun c ↦ eq_space_of_mem_indentation (n := 0 + depth) (c := c))
  rw [codeAt, List.flatMap_singleton, Line.chars, line, hnonempty, if_neg Bool.false_ne_true,
    String.toList_append, String.toList_append, ← List.append_assoc, hindented.codeChars_append]

theorem opensDocumentation_of_mem_docLines {description? : Option String} :
    ∀ l ∈ docLines description?, OpensDocumentation l.text.toList := by
  cases description? with
  | none => exact fun _ hl ↦ absurd hl List.not_mem_nil
  | some description =>
    refine List.forall_mem_map.2 fun text htext ↦ ?_
    have hend : '\n' ∉ (Text.trimEnd text).toList :=
      fun hmem ↦ Text.newline_not_mem_of_mem_lines htext (Text.mem_of_mem_trimEnd hmem)
    rw [docLine, line]
    split_ifs
    · exact opensDocumentation_comment [] List.not_mem_nil
    · rw [String.toList_append]
      exact opensDocumentation_comment (' ' :: (Text.trimEnd text).toList) (by simp [hend])

theorem opensDocumentation_of_mem_deprecationLines {deprecation? : Option Schema.Deprecation} :
    ∀ l ∈ deprecationLines deprecation?, OpensDocumentation l.text.toList := by
  rcases deprecation? with _ | ⟨_ | reason⟩
  · exact fun _ hl ↦ absurd hl List.not_mem_nil
  · exact List.forall_mem_singleton.2 (opensDocumentation_deprecated [']'] (by decide))
  · refine List.forall_mem_singleton.2 ?_
    have hquoted := Text.newline_not_mem_quoted reason
    have htext : (s!"#[deprecated(note = {Text.quoted reason})]").toList
        = "#[deprecated".toList
          ++ ("(note = ".toList ++ (Text.quoted reason).toList ++ [')', ']']) := by
      simp [toString]
    rw [line, htext]
    exact opensDocumentation_deprecated _ (by simp [hquoted])

theorem OpensDocumentation.sameCode {l : Line} (h : OpensDocumentation l.text.toList) :
    SameCode [l] [] := by
  intro depth
  have hline := h.codeAt_line "" (l.depth + depth)
  rw [String.append_empty, codeAt, line, List.flatMap_singleton, Nat.zero_add] at hline
  rw [codeAt, List.flatMap_singleton]
  exact hline

theorem sameCode_nil {ls : List Line}
    (h : ∀ l ∈ ls, OpensDocumentation l.text.toList) : SameCode ls [] := by
  induction ls with
  | nil => exact .refl []
  | cons l ls ih =>
    obtain ⟨hl, hls⟩ := List.forall_mem_cons.1 h
    exact hl.sameCode.append (ih hls)

/-- **A description is not code.** -/
theorem sameCode_docLines_nil (description? : Option String) :
    SameCode (docLines description?) [] :=
  sameCode_nil opensDocumentation_of_mem_docLines

/-- **A deprecation is not code.** -/
theorem sameCode_deprecationLines_nil (deprecation? : Option Schema.Deprecation) :
    SameCode (deprecationLines deprecation?) [] :=
  sameCode_nil opensDocumentation_of_mem_deprecationLines

theorem sameCode_docLines (description? description'? : Option String) :
    SameCode (docLines description?) (docLines description'?) :=
  (sameCode_docLines_nil _).trans (sameCode_docLines_nil _).symm

theorem sameCode_deprecationLines (deprecation? deprecation'? : Option Schema.Deprecation) :
    SameCode (deprecationLines deprecation?) (deprecationLines deprecation'?) :=
  (sameCode_deprecationLines_nil _).trans (sameCode_deprecationLines_nil _).symm

/-! ## Files -/

theorem SameCode.codeLines_unitText (options : Options) {ls ms : List Line} (h : SameCode ls ms) :
    codeLines (unitText options ls) = codeLines (unitText options ms) := by
  rw [unitText, unitText, codeLines_printLines, codeLines_printLines, h.append_left _ 0]

theorem OtherCode.codeLines_unitText (options : Options) {ls ms : List Line}
    (h : OtherCode ls ms) : codeLines (unitText options ls) ≠ codeLines (unitText options ms) := by
  rw [unitText, unitText, codeLines_printLines, codeLines_printLines]
  exact fun heq ↦ h.append_left _ 0 (List.append_cancel_right heq)

theorem endsInNewline_append {s t : String} (h : t ≠ "") :
    endsInNewline (s ++ t) = endsInNewline t := by
  rw [endsInNewline, String.toList_append, List.getLast?_append, endsInNewline]
  cases hlast : t.toList.getLast? with
  | none => exact absurd (String.toList_eq_nil_iff.1 (List.getLast?_eq_none_iff.1 hlast)) h
  | some c => rfl

theorem endsInNewline_closeLine (s : String) : endsInNewline (closeLine s) = true := by
  rw [closeLine]
  split_ifs with h
  · exact h
  · exact endsInNewline_append (by decide)

theorem endsInNewline_printLines {ls : List Line} (h : ls ≠ []) :
    endsInNewline (printLines ls) = true := by
  obtain ⟨before, l, rfl⟩ := (List.eq_nil_or_concat' ls).resolve_left h
  rw [endsInNewline, printLines, List.map_append, List.map_singleton, String.join_append,
    String.join_cons, String.join_nil, String.append_empty, String.toList_append,
    Line.toList_print, ← List.append_assoc, List.getLast?_concat]
  rfl

theorem closeLine_append_newline (before source : String) :
    closeLine (before ++ "\n" ++ source) = before ++ "\n" ++ source
      ++ (if source = "" ∨ endsInNewline source = true then "" else "\n") := by
  by_cases hsource : source = ""
  · have hends : endsInNewline (before ++ "\n") = true := endsInNewline_append (by decide)
    rw [hsource, if_pos (.inl rfl), String.append_empty, String.append_empty, closeLine,
      if_pos hends]
  · simp only [closeLine, endsInNewline_append hsource, hsource, false_or]
    split_ifs
    · exact String.append_empty.symm
    · rfl

theorem opened_append_newline (content : String) :
    (if content.isEmpty then "" else closeLine content) ++ "\n" = content
      ++ (if content = "" ∨ endsInNewline content = true then "\n" else "\n\n") := by
  by_cases hcontent : content = ""
  · rw [hcontent]
    rfl
  · have hopen : ¬content.isEmpty = true := fun h ↦ hcontent (String.isEmpty_iff.1 h)
    simp only [if_neg hopen, closeLine, hcontent, false_or]
    split_ifs
    · rfl
    · rw [String.append_assoc]
      rfl

/-- What adding source does: it closes a line that is open at the end of either text, and puts one
empty line between the two. -/
theorem appendSource_eq (content source : String) : appendSource content source = content
    ++ (if content = "" ∨ endsInNewline content = true then "\n" else "\n\n") ++ source
    ++ (if source = "" ∨ endsInNewline source = true then "" else "\n") := by
  rw [appendSource, closeLine_append_newline, opened_append_newline]

/-- **Source is added behind what is there**, whatever that is. -/
theorem exists_appendSource_eq (source : String) : ∃ rest : String, ∀ content,
    endsInNewline content = true → appendSource content source = content ++ "\n" ++ rest := by
  refine ⟨source ++ (if source = "" ∨ endsInNewline source = true then "" else "\n"),
    fun content h ↦ ?_⟩
  rw [appendSource_eq, if_pos (.inr h), String.append_assoc]

/-- Adding the same sources to texts with the same code. -/
theorem codeLines_foldl_appendSource {content content' : String} (sources : List String)
    (hends : endsInNewline content = true) (hends' : endsInNewline content' = true)
    (h : codeLines content = codeLines content') :
    codeLines (sources.foldl appendSource content)
      = codeLines (sources.foldl appendSource content') := by
  induction sources generalizing content content' with
  | nil => exact h
  | cons source sources ih =>
    obtain ⟨rest, hrest⟩ := exists_appendSource_eq source
    refine ih (endsInNewline_closeLine _) (endsInNewline_closeLine _) ?_
    have hadded {content : String} : codeLines (content ++ "\n" ++ rest)
        = codeLines content ++ codeLines rest := by
      rw [codeLines, String.append_assoc, String.toList_append, String.toList_append]
      exact codeChars_append_newline _ _
    rw [hrest _ hends, hrest _ hends', hadded, hadded, h]

end Code
end QueryBuilder
