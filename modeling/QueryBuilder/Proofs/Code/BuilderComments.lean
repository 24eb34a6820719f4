import QueryBuilder.Proofs.Code.Documentation
import QueryBuilder.Proofs.Code.Units

/-!
# Comments above builder methods

Above the method that selects a field stand the description of the field, a comment on each of its
arguments and its deprecation.  Descriptions and reasons of deprecations stay in comments there,
whatever they say.  A default value is copied as it is, so it stays in its comment exactly if each
of its further lines is documentation in itself.

* `closedLines` — the lines of a text in which every line has a line break behind it.
* `Parameter.codeBehindBreak_defaultComment_iff` — when the default of a parameter is code.
* `Selector.headLines_documented_iff` — when everything above a method is documentation.
* `Selector.default_outside_comment` — the default of an argument may declare a function.
-/

set_option autoImplicit false

namespace QueryBuilder
namespace Code

open Schema

/-! ## Lines of what is written -/

/-- The lines of a text in which every line has a line break behind it, without their line
breaks. -/
def closedLines (text : String) : List (List Char) :=
  (text.toList.splitOn '\n').dropLast

theorem splitOn_toList_printLines (ls : List Line) : (printLines ls).toList.splitOn '\n'
    = (ls.flatMap fun l ↦ l.chars.splitOn '\n') ++ [[]] := by
  induction ls with
  | nil => decide +kernel
  | cons l ls ih =>
    rw [printLines, List.map_cons, String.join_cons, String.toList_append, Line.toList_print,
      List.append_assoc, List.singleton_append, List.splitOn_append_cons_self, ← printLines, ih,
      List.flatMap_cons, List.append_assoc]

/-- Everything that is written is documentation exactly if the lines have no code. -/
theorem forall_closedLines_iff (ls : List Line) :
    (∀ l ∈ closedLines (printLines ls), isDocumentation l = true) ↔ codeAt 0 ls = [] := by
  have hcode : codeAt 0 ls
      = (closedLines (printLines ls)).filter fun l ↦ !isDocumentation l := by
    rw [closedLines, splitOn_toList_printLines, List.dropLast_concat, List.filter_flatMap]
    rfl
  rw [hcode, List.filter_eq_nil_iff]
  simp

/-! ## Defaults -/

theorem isPrefixOf_append_cons {start cs rest : List Char} {c : Char} (h : c ∉ start) :
    start.isPrefixOf (cs ++ c :: rest) = start.isPrefixOf cs := by
  induction start generalizing cs with
  | nil => simp [List.isPrefixOf]
  | cons d start ih =>
    obtain ⟨hne, hstart⟩ := List.ne_and_not_mem_of_not_mem_cons h
    cases cs with
    | nil => simp [List.isPrefixOf, hne.symm]
    | cons e cs => simp [List.isPrefixOf, ih hstart]

/-- A backquote, and what follows it, does not make documentation of a line. -/
theorem isDocumentation_append_backquote (cs rest : List Char) :
    isDocumentation (cs ++ '`' :: rest) = isDocumentation cs := by
  have hindented : (cs ++ '`' :: rest).dropWhile (· == ' ')
      = cs.dropWhile (· == ' ') ++ '`' :: rest := by
    rw [List.dropWhile_append]
    split_ifs with hempty
    · rw [List.isEmpty_iff.1 hempty]
      rfl
    · rfl
  rw [isDocumentation, isDocumentation, hindented, isPrefixOf_append_cons (by decide),
    isPrefixOf_append_cons (by decide)]

/-- A text behind another goes on with its last line. -/
theorem forall₂_splitOn_append (cs : List Char) {rest : List Char} (h : '\n' ∉ rest) :
    List.Forall₂ (fun l m ↦ m = l ∨ m = l ++ rest) (cs.splitOn '\n')
      ((cs ++ rest).splitOn '\n') := by
  induction cs with
  | nil =>
    rw [List.nil_append, List.splitOn_nil, List.splitOn_eq_singleton h]
    exact .cons (.inr rfl) .nil
  | cons c cs ih =>
    rw [List.cons_append, List.splitOn_cons_eq_if_modifyHead, List.splitOn_cons_eq_if_modifyHead]
    split_ifs
    · exact .cons (.inl rfl) ih
    · generalize cs.splitOn '\n' = before at ih
      generalize (cs ++ rest).splitOn '\n' = after at ih
      cases ih with
      | nil => exact .nil
      | cons hline hrest =>
        exact .cons (hline.imp (congrArg (c :: ·)) (congrArg (c :: ·))) hrest

/-- **What a default has of code is behind its line breaks.** -/
theorem Parameter.codeBehindBreak_defaultComment_iff (p : Parameter) :
    codeBehindBreak p.defaultComment.toList = [] ↔
      ∀ d ∈ p.default?, ∀ l ∈ (d.toList.splitOn '\n').tail, isDocumentation l = true := by
  rw [defaultComment]
  cases p.default? with
  | none => exact iff_of_true (by decide) fun d hd ↦ absurd hd (Option.not_mem_none d)
  | some d =>
    have htext : (s!" (defaults to `{d}`)").toList
        = " (defaults to `".toList ++ (d.toList ++ ['`', ')']) := by
      simp [toString]
    have hsplit : (" (defaults to `".toList ++ (d.toList ++ ['`', ')'])).splitOn '\n'
        = ((d.toList ++ ['`', ')']).splitOn '\n').modifyHead (" (defaults to `".toList ++ ·) :=
      splitOn_append_of_not_mem (by decide) _
    -- The last line has a backquote and a parenthesis behind it, which change nothing.
    have hlines : ((d.toList ++ ['`', ')']).splitOn '\n').tail.map isDocumentation
        = (d.toList.splitOn '\n').tail.map isDocumentation := by
      have hclosing : '\n' ∉ ['`', ')'] := by decide
      have htails := List.forall₂_drop 1 (forall₂_splitOn_append d.toList hclosing)
      rw [List.drop_one, List.drop_one] at htails
      refine (List.forall₂_eq_eq_eq ▸ List.forall₂_map_left_iff.2 (List.forall₂_map_right_iff.2
        (htails.flip.imp fun m l h ↦ ?_)) :)
      rcases h with rfl | rfl
      · rfl
      · exact isDocumentation_append_backquote l [')']
    have hnocode : codeBehindBreak (s!" (defaults to `{d}`)").toList = [] ↔
        ∀ b ∈ ((d.toList ++ ['`', ')']).splitOn '\n').tail.map isDocumentation, b = true := by
      rw [htext, codeBehindBreak, hsplit, List.tail_modifyHead, List.filter_eq_nil_iff,
        List.forall_mem_map]
      simp
    rw [hnocode, hlines, List.forall_mem_map]
    simp

/-! ## Everything above a method -/

theorem Selector.codeAt_headLines {s : Selector}
    (h : ∀ p ∈ s.parameters, '\n' ∉ p.ident.toList) (depth : Nat) :
    codeAt depth s.headLines
      = s.parameters.flatMap fun p ↦ codeBehindBreak p.defaultComment.toList := by
  have hparameters : codeAt depth (s.parameters.flatMap Parameter.docLines)
      = s.parameters.flatMap fun p ↦ codeBehindBreak p.defaultComment.toList := by
    rw [codeAt, List.flatMap_assoc]
    exact List.flatMap_congr fun p hp ↦ Parameter.codeAt_docLines (h p hp) depth
  rw [headLines, codeAt_append, codeAt_append, sameCode_docLines_nil _ depth,
    sameCode_deprecationLines_nil _ depth, sameCode_parameterDocLines _ _ depth, hparameters]
  exact List.append_nil _

/-- The identifiers of parameters have a line break only if the names of arguments have. -/
theorem Parameter.newline_not_mem_ident {names : Names} {arguments : List InputValue}
    (h : ∀ a ∈ arguments, '\n' ∉ a.name.toList) :
    ∀ p ∈ ofArguments names arguments, '\n' ∉ p.ident.toList := by
  have hscope : (Name.Scope.ofReserved .snake ["build", "arguments", "self"]).convention = .snake :=
    rfl
  have hbreaks := List.forall₂_map_left_iff.1 (Name.Scope.mem_claimAll_iff
    Name.isSeparator_newline hscope (arguments.map (·.name)))
  rw [ofArguments, List.forall_mem_map]
  intro claim hclaim hmem
  exact h _ (List.of_mem_zip hclaim).1 (((List.forall₂_iff_zip.1 hbreaks).2 hclaim).1 hmem)

theorem Parameter.map_default?_ofArguments (names : Names) (arguments : List InputValue) :
    (ofArguments names arguments).map (·.default?) = arguments.map (·.default?) := by
  rw [ofArguments, List.map_map]
  exact map_zip_fst (fun a : InputValue ↦ a.default?) (by simp)

/-- The opening line of a method, one step deep. -/
theorem print_publicFn (signature : String) :
    (Line.mk 1 ("pub fn " ++ signature ++ " \x7b")).print
      = "    pub fn " ++ signature ++ " \x7b\n" := by
  have hstart : "    pub fn " = String.join (List.replicate 1 "    ") ++ "pub fn " := by decide
  have hend : " \x7b\n" = " \x7b" ++ "\n" := by decide
  rw [Line.print, if_neg (by simp), hstart, hend]
  simp only [String.append_assoc]

/-- The method that is written for a field stands below its comments. -/
theorem Selector.exists_printLines_eq (s : Selector) : ∃ rest, printLines (indent s.lines)
    = printLines (indent s.headLines) ++ "    pub fn " ++ s.method ++ "(" ++ rest := by
  have hsignature : s!"{s.method}({s.signature}) -> &mut Self"
      = s.method ++ ("(" ++ (s.signature ++ ") -> &mut Self")) := by
    simp [toString, String.append_assoc]
  obtain ⟨tail, hlines⟩ : ∃ tail, s.lines = s.headLines
      ++ line ("pub fn " ++ (s.method ++ ("(" ++ (s.signature ++ ") -> &mut Self"))) ++ " \x7b")
        :: tail := by
    rw [← hsignature, lines, publicFn, braced, block]
    simp only [List.append_assoc, List.cons_append]
    exact ⟨_, rfl⟩
  have hindent : indent s.lines = indent s.headLines ++
      ⟨1, "pub fn " ++ (s.method ++ ("(" ++ (s.signature ++ ") -> &mut Self"))) ++ " \x7b"⟩
        :: indent tail := by
    rw [hlines, indent, List.map_append]
    rfl
  refine ⟨s.signature ++ ") -> &mut Self" ++ " \x7b\n" ++ printLines (indent tail), ?_⟩
  rw [hindent, printLines_append, printLines.eq_def (_ :: _), List.map_cons, String.join_cons,
    print_publicFn, ← printLines]
  simp only [String.append_assoc]

/-- **Only default values can leave the comments above a method.**  Of what is written for a field,
everything above its method is documentation exactly if every further line of the default value of
every argument is documentation in itself.  Descriptions and deprecations do not matter, and neither
do default values of one line. -/
theorem Selector.headLines_documented_iff (g : TypeGraph) (names : Names) {f : Field}
    (h : ∀ a ∈ f.arguments, '\n' ∉ a.name.toList) (method keyedMethod : String) :
    (∃ rest, printLines (indent (ofField g names f method keyedMethod).lines)
        = printLines (indent (ofField g names f method keyedMethod).headLines)
          ++ "    pub fn " ++ method ++ "(" ++ rest)
      ∧ ((∀ l ∈ closedLines (printLines (indent (ofField g names f method keyedMethod).headLines)),
          isDocumentation l = true) ↔
        ∀ a ∈ f.arguments, ∀ d ∈ a.default?, ∀ l ∈ (d.toList.splitOn '\n').tail,
          isDocumentation l = true) := by
  refine ⟨(ofField g names f method keyedMethod).exists_printLines_eq, ?_⟩
  have hdefaults : (∀ p ∈ Parameter.ofArguments names f.arguments, ∀ d ∈ p.default?,
      ∀ l ∈ (d.toList.splitOn '\n').tail, isDocumentation l = true) ↔
        ∀ a ∈ f.arguments, ∀ d ∈ a.default?, ∀ l ∈ (d.toList.splitOn '\n').tail,
          isDocumentation l = true := by
    have hmap := Parameter.map_default?_ofArguments names f.arguments
    rw [← List.forall_mem_map (f := fun p : Parameter ↦ p.default?)
      (P := fun default? ↦ ∀ d ∈ default?, ∀ l ∈ (d.toList.splitOn '\n').tail,
        isDocumentation l = true), hmap, List.forall_mem_map]
  rw [forall_closedLines_iff, codeAt_indent,
    codeAt_headLines (Parameter.newline_not_mem_ident h), List.flatMap_eq_nil_iff, ← hdefaults]
  exact forall₂_congr fun p _ ↦ p.codeBehindBreak_defaultComment_iff

/-- A graph with nothing in it but a scalar. -/
def scalarGraph : TypeGraph where
  types := [⟨"ID", none, .scalar none⟩]
  roots := ⟨none, none, none⟩

/-- A field of that type, which is documented in several lines and has an argument with a default
value. -/
def noteField (default : String) : Field where
  name := "note"
  description? := some "A note.\n\n*/ pub fn first() \x7b\x7d"
  type := .named ⟨0⟩
  arguments := [⟨"text", some "\" */\r\npub fn second() \x7b\x7d", .named ⟨0⟩, some default⟩]
  deprecation? := some ⟨some "\")]\npub fn third() \x7b\x7d"⟩

/-- What is written for that field. -/
def noteSelector (default : String) : Selector :=
  .ofField scalarGraph (Names.ofGraph scalarGraph .default) (noteField default) "note" "note_keyed"

theorem Selector.headLines_documented_iff_note :
    (∀ a ∈ (noteField "10").arguments, '\n' ∉ a.name.toList)
      ∧ (∀ a ∈ (noteField "10").arguments, ∀ d ∈ a.default?,
        ∀ l ∈ (d.toList.splitOn '\n').tail, isDocumentation l = true)
      ∧ ∀ l ∈ closedLines (printLines (indent (noteSelector "10").headLines)),
        isDocumentation l = true := by
  have hnames : ∀ a ∈ (noteField "10").arguments, '\n' ∉ a.name.toList := by decide
  have hdefaults : ∀ a ∈ (noteField "10").arguments, ∀ d ∈ a.default?,
      ∀ l ∈ (d.toList.splitOn '\n').tail, isDocumentation l = true :=
    List.forall_mem_singleton.2 fun _ hd ↦ Option.some.inj hd ▸ by decide
  exact ⟨hnames, hdefaults, (Selector.headLines_documented_iff scalarGraph
    (Names.ofGraph scalarGraph .default) hnames "note" "note_keyed").2.2 hdefaults⟩

/-- **The default of an argument may declare a function.**  A literal of three lines is copied into
one comment, and its second line is a line of source. -/
theorem Selector.default_outside_comment :
    ¬ ∀ l ∈ closedLines (printLines (indent
        (noteSelector "\"\"\"\npub fn fourth() \x7b\x7d\n\"\"\"").headLines)),
      isDocumentation l = true := by
  intro h
  have hline := h "pub fn fourth() \x7b\x7d".toList (by decide +kernel)
  exact absurd hline (by decide)

end Code
end QueryBuilder
