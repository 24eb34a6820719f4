import QueryBuilder.Proofs.Code.CodeLines
import QueryBuilder.Proofs.Code.Overrides
import QueryBuilder.Proofs.Code.Units
import QueryBuilder.Proofs.Schema.Effective

/-!
# The text of the aliases unit

The text is put together in three places: the declarations of scalars without a source, the inline
sources behind them, and the files that are loaded and added one after the other.

* `IsAppended` — source behind an empty line.  This is what adding source does
  (`isAppended_appendSource`).
* `baseText` — the declarations: built-in scalars, and a string for each custom one that has no
  source.
* `Output.HoldsSources` — an output of a graph whose aliases unit has the declarations, the inline
  texts in effect and some loaded texts.  Generating gives one, and a loaded text can be added.
* `Loading` — what may come of loading a list of files in order, and `run_appendAll`, that adding
  files does this and nothing else.
* `aliases_after_overrides` — all of it together.
-/

set_option autoImplicit false

namespace QueryBuilder
namespace Code

open Schema

/-! ## Adding source -/

/-- The result is the first text with the second behind it: a line that is open at the end of either
text is closed, and one empty line stands between the two. -/
structure IsAppended (content source result : String) : Prop where
  eq : result = content
    ++ (if content = "" ∨ endsInNewline content = true then "\n" else "\n\n") ++ source
    ++ (if source = "" ∨ endsInNewline source = true then "" else "\n")
  keeps : content.toList <+: result.toList
  closed : endsInNewline result = true

/-- **Source is added behind an empty line**, and what was there stays. -/
theorem isAppended_appendSource (content source : String) :
    IsAppended content source (appendSource content source) := by
  refine ⟨appendSource_eq content source, ?_, endsInNewline_closeLine _⟩
  rw [appendSource_eq, String.append_assoc, String.append_assoc, String.toList_append]
  exact List.prefix_append _ _

/-! ## Declarations -/

/-- The declarations of the built-in scalars. -/
def builtinText : String :=
  "pub type Int = i32;\n"
    ++ "pub type Float = f64;\n"
    ++ "pub type String = ::std::string::String;\n"
    ++ "pub type Boolean = bool;\n"
    ++ "pub type ID = ::std::string::String;\n"

/-- The scalars that stand for strings: those that are not built in and have no source. -/
def defaultScalars (g : TypeGraph) : List (TypeId × NamedType) :=
  g.entries.filter fun entry ↦ entry.2.kind = .scalar ∧ entry.2.name ∉ builtinScalars
    ∧ entry.2.scalarSource? = none

/-- The declaration of a scalar that stands for a string. -/
def defaultText (names : Names) (entry : TypeId × NamedType) : String :=
  "\n" ++ printLines (docLines entry.2.description?) ++ "pub type " ++ names.ident entry.1
    ++ " = ::std::string::String;\n"

/-- The declarations of the aliases unit, below its header. -/
def baseText (g : TypeGraph) (options : Options) : String :=
  printLines (headerLines options.header) ++ builtinText
    ++ String.join ((defaultScalars g).map (defaultText (Names.ofGraph g options)))

theorem printLines_flatMap {α : Type} (f : α → List Line) (l : List α) :
    printLines (l.flatMap f) = String.join (l.map fun a ↦ printLines (f a)) := by
  induction l with
  | nil => rfl
  | cons a l ih => rw [List.flatMap_cons, printLines_append, ih, List.map_cons, String.join_cons]

namespace Aliases

theorem printLines_builtinLines : printLines builtinLines = builtinText := by decide +kernel

theorem printLines_scalarLines (names : Names) (entry : TypeId × NamedType) :
    printLines (scalarLines ⟨names.ident entry.1, entry.2.description?⟩)
      = defaultText names entry := by
  have hnonempty : ("pub type " ++ names.ident entry.1 ++ " = ::std::string::String;").isEmpty
      = false := by simp
  have hline : printLines [line s!"pub type {names.ident entry.1} = ::std::string::String;"]
      = "pub type " ++ names.ident entry.1 ++ (" = ::std::string::String;" ++ "\n") := by
    rw [printLines, List.map_singleton, String.join_cons, String.join_nil, String.append_empty,
      ← String.append_assoc]
    exact print_line hnonempty
  have hblank : printLines [blank] = "\n" := by decide +kernel
  have hend : " = ::std::string::String;" ++ "\n" = " = ::std::string::String;\n" := by decide
  rw [scalarLines, ← List.singleton_append, printLines_append, printLines_append, hblank, hline,
    hend, defaultText]
  simp only [String.append_assoc]

/-- The scalars that stand for strings are those that get such an alias. -/
theorem scalars_ofGraph (g : TypeGraph) (names : Names) : (ofGraph g names).scalars
    = (defaultScalars g).map fun entry ↦ ⟨names.ident entry.1, entry.2.description?⟩ := by
  show (customScalars g).filterMap (aliasOf? names) = _
  rw [customScalars, defaultScalars, List.filterMap_filter, ← List.filterMap_eq_map,
    List.filterMap_filter]
  refine List.filterMap_congr fun entry _ ↦ ?_
  rw [aliasOf?]
  cases hkind : entry.2.kind <;> cases hsource : entry.2.scalarSource? <;>
    simp [hkind, NamedType.isBuiltinScalar]

theorem printLines_lines (g : TypeGraph) (options : Options) :
    printLines (headerLines options.header ++ (ofGraph g (Names.ofGraph g options)).lines)
      = baseText g options := by
  rw [lines, printLines_append, printLines_append, printLines_builtinLines, printLines_flatMap,
    scalars_ofGraph, List.map_map, baseText, ← String.append_assoc]
  refine congrArg _ (congrArg String.join (List.map_congr_left fun entry _ ↦ ?_))
  exact printLines_scalarLines _ entry

/-! ## Inline sources -/

theorem inlineOf?_eq (entry : TypeId × NamedType) :
    inlineOf? entry = entry.2.scalarSource?.bind (·.inline?) := by
  rw [inlineOf?]
  rcases entry.2.scalarSource? with _ | _ | _ <;> rfl

/-- The custom scalars of a merged graph have all inline texts that are in effect. -/
theorem filterMap_inlineOf? {g : TypeGraph} {overrides : List Override}
    (h : g.SourcedBy overrides) : (customScalars g).filterMap inlineOf? = g.inlineTexts := by
  rw [TypeGraph.inlineTexts, ← TypeGraph.map_snd_entries, List.filterMap_map, customScalars,
    List.filterMap_filter]
  refine List.filterMap_congr fun entry hentry ↦ ?_
  have hmem : entry.2 ∈ g.types := g.map_snd_entries ▸ List.mem_map_of_mem hentry
  rw [inlineOf?_eq, Function.comp_apply]
  split_ifs with hcustom
  · rfl
  · cases hsource : entry.2.scalarSource? with
    | none => rfl
    | some source =>
      -- What has a source is a custom scalar.
      have hkind : entry.2.kind = .scalar := by
        rw [NamedType.scalarSource?] at hsource
        rw [NamedType.kind]
        split at hsource
        · rename_i hbody
          rw [hbody]
          rfl
        · cases hsource
      obtain ⟨hbuiltin, -⟩ := h entry.2 hmem source hsource
      exact absurd (by simp [hkind, NamedType.isBuiltinScalar, hbuiltin]) hcustom

end Aliases

/-! ## Outputs with sources -/

/-- The output is that of the graph, but for source at the end of its aliases unit.  There is one
such unit.  It has the declarations, then each inline text that is in effect, once and in the order
of the scalars, and then the loaded texts. -/
structure Output.HoldsSources (g : TypeGraph) (options : Options) (loaded : List String)
    (o : Output) : Prop where
  aliases : ∃ inline, IsDistinct (· == ·) g.inlineTexts inline
    ∧ o.ofKind .aliases = [⟨.aliases, modulePath aliasesModule,
        (inline ++ loaded).foldl appendSource (baseText g options)⟩]
  others : (generate g options).SameBesideAliases o

namespace Output

theorem ofKind_appendToAliases (o : Output) (source : String) :
    (o.appendToAliases source).ofKind .aliases
      = (o.ofKind .aliases).map (·.append source) := by
  have hfilter : o.units.filter ((fun u ↦ u.kind == .aliases) ∘
      fun u ↦ if u.kind = .aliases then u.append source else u)
      = o.units.filter fun u ↦ u.kind == .aliases := by
    refine List.filter_congr fun u _ ↦ ?_
    rw [Function.comp_apply]
    split_ifs <;> rfl
  rw [ofKind, appendToAliases, List.filter_map, hfilter, ofKind]
  exact List.map_congr_left fun u hu ↦ if_pos (beq_iff_eq.1 (List.mem_filter.1 hu).2)

/-- **What is generated holds the inline texts.** -/
theorem holdsSources_generate {g : TypeGraph} {overrides : List Override}
    (h : g.SourcedBy overrides) (options : Options) :
    HoldsSources g options [] (generate g options) := by
  refine ⟨⟨(Aliases.ofGraph g (Names.ofGraph g options)).sources, ?_, ?_⟩, .refl _⟩
  · rw [← Aliases.filterMap_inlineOf? h]
    exact Aliases.isDistinct_distinct _
  · rw [ofKind_aliases_generate, aliasesUnit, Aliases.content, Aliases.printLines_lines,
      List.append_nil]

/-- **A loaded text is added behind those that were loaded before.** -/
theorem HoldsSources.appendToAliases {g : TypeGraph} {options : Options} {loaded : List String}
    {o : Output} (h : o.HoldsSources g options loaded) (source : String) :
    (o.appendToAliases source).HoldsSources g options (loaded ++ [source]) := by
  obtain ⟨inline, hinline, haliases⟩ := h.aliases
  refine ⟨⟨inline, hinline, ?_⟩, h.others.trans (o.sameBesideAliases_appendToAliases source)⟩
  rw [ofKind_appendToAliases, haliases, ← List.append_assoc, List.foldl_concat]
  rfl

end Output

/-! ## Loading files -/

section

variable {σ ε : Type} (load : Path → StateM σ (Except ε String))

/-- The files are loaded one after the other, with these texts, from the first state to the last. -/
inductive Loads : List Path → σ → List String → σ → Prop where
  | nil (s : σ) : Loads [] s [] s
  | cons {path : Path} {rest : List Path} {s s' s'' : σ} {text : String} {texts : List String} :
    (load path).run s = (.ok text, s') → Loads rest s' texts s'' →
      Loads (path :: rest) s (text :: texts) s''

/-- What may come of loading files in order, with the texts that were loaded and the state in which
the loader is left. -/
inductive Loading (files : List Path) (s : σ) : List String → Except ε Unit → σ → Prop where
  /-- All are loaded. -/
  | done {texts : List String} {s' : σ} : Loads load files s texts s' →
    Loading files s texts (.ok ()) s'
  /-- Those before some file are loaded and it is not.  No other is tried. -/
  | failed {before after : List Path} {path : Path} {texts : List String} {s' s'' : σ} {e : ε} :
    files = before ++ path :: after → Loads load before s texts s' →
      (load path).run s' = (.error e, s'') → Loading files s texts (.error e) s''

variable {load}

theorem Loading.cons {path : Path} {rest : List Path} {s s' s'' : σ} {text : String}
    {texts : List String} {result : Except ε Unit}
    (hload : (load path).run s = (.ok text, s')) (h : Loading load rest s' texts result s'') :
    Loading load (path :: rest) s (text :: texts) result s'' := by
  cases h with
  | done hrest => exact .done (.cons hload hrest)
  | failed hfiles hbefore herror =>
    exact .failed (congrArg (path :: ·) hfiles) (.cons hload hbefore) herror

namespace Output

variable (load)

/-- **Adding files loads them in order and adds what was loaded.** -/
theorem run_appendAll (o : Output) (files : List Path) (s : σ) :
    ∃ texts result s', Loading load files s texts result s'
      ∧ (o.appendAll load files).run s = ((texts.foldl appendToAliases o, result), s') := by
  induction files generalizing o s with
  | nil => exact ⟨[], .ok (), s, .done (.nil s), rfl⟩
  | cons path rest ih =>
    rw [appendAll, StateT.run_bind]
    rcases hload : (load path).run s with ⟨loaded, s'⟩
    cases loaded with
    | error e =>
      have hfiles : path :: rest = [] ++ path :: rest := rfl
      exact ⟨[], .error e, s', .failed hfiles (.nil s) hload, rfl⟩
    | ok text =>
      obtain ⟨texts, result, s'', hrest, hrun⟩ := ih (o.appendToAliases text) s'
      exact ⟨text :: texts, result, s'', hrest.cons hload, hrun⟩

theorem run_appendFiles (o : Output) (g : TypeGraph) (overrides : List Override) (s : σ) :
    ∃ texts result s', Loading load (effectiveFiles overrides g) s texts result s'
      ∧ (o.appendFiles load g overrides).run s = ((texts.foldl appendToAliases o,
          result.map fun () ↦ (effectiveFiles overrides g).length), s') := by
  obtain ⟨texts, result, s', hloading, hrun⟩ :=
    run_appendAll load o (effectiveFiles overrides g) s
  refine ⟨texts, result, s', hloading, ?_⟩
  rw [appendFiles, StateT.run_bind, hrun]
  rfl

theorem HoldsSources.foldl_appendToAliases {g : TypeGraph} {options : Options}
    {loaded : List String} {o : Output} (h : o.HoldsSources g options loaded)
    (texts : List String) :
    (texts.foldl Output.appendToAliases o).HoldsSources g options (loaded ++ texts) := by
  induction texts generalizing loaded o with
  | nil => rwa [List.append_nil]
  | cons text texts ih =>
    have hstep := ih (h.appendToAliases text)
    rwa [List.append_assoc] at hstep

end Output

variable (load)

/-- **The aliases unit has the declarations, the inline texts and the loaded ones, in this order.**
Overrides are merged into a graph that has no sources yet, units are generated, and the files in
effect are added.  All are loaded, and the answer is their number; or those before some file are,
and the answer is the error of that one.  Either way the aliases unit holds what was loaded, and no
other unit is touched.

The files in effect are listed once, and none that a scalar has is missing.  Whenever source is
added, the unit keeps what it had, and an empty line stands between the two. -/
theorem aliases_after_overrides {g : TypeGraph} (hg : ∀ t ∈ g.types, t.scalarSource? = none)
    (options : Options) (overrides : List Override) (s : σ) :
    (∃ loaded result s' o,
      ((generate (Override.merge overrides g).1 options).appendFiles load
          (Override.merge overrides g).1 overrides).run s
        = ((o, result.map fun () ↦
            (effectiveFiles overrides (Override.merge overrides g).1).length), s')
      ∧ Loading load (effectiveFiles overrides (Override.merge overrides g).1) s loaded result s'
      ∧ o.HoldsSources (Override.merge overrides g).1 options loaded)
      ∧ ((effectiveFiles overrides (Override.merge overrides g).1).Pairwise
          fun p q ↦ p.same q = false)
      ∧ (∀ path ∈ (Override.merge overrides g).1.filesInEffect,
          ∃ p ∈ effectiveFiles overrides (Override.merge overrides g).1, p.same path = true)
      ∧ ∀ content source, IsAppended content source (appendSource content source) := by
  have hmerged := TypeGraph.sourcedBy_merge hg overrides
  refine ⟨?_, once_effectiveFiles _ _, fun path ↦ exists_mem_effectiveFiles hmerged,
    isAppended_appendSource⟩
  obtain ⟨loaded, result, s', hloading, hrun⟩ := Output.run_appendFiles load
    (generate (Override.merge overrides g).1 options) (Override.merge overrides g).1 overrides s
  exact ⟨loaded, result, s', _, hrun, hloading,
    (Output.holdsSources_generate hmerged options).foldl_appendToAliases loaded⟩

end

/-! ## An example -/

/-- A built-in scalar and five others. -/
def sixScalars : TypeGraph where
  types := ["ID", "Date", "Time", "Url", "Json", "Any"].map fun name ↦ ⟨name, none, .scalar none⟩
  roots := ⟨none, none, none⟩

/-- Two scalars share a text.  One file is replaced by it, and one is meant for a scalar that keeps
its meaning. -/
def scalarOverrides : List Override := [
  ⟨"Date", .file ⟨"date.rs"⟩⟩,
  ⟨"ID", .file ⟨"id.rs"⟩⟩,
  ⟨"Date", .inline "use chrono::*;"⟩,
  ⟨"Time", .inline "use chrono::*;"⟩,
  ⟨"Url", .file ⟨"url.rs"⟩⟩,
  ⟨"Json", .file ⟨"json.rs"⟩⟩,
  ⟨"Any", .file ⟨"any.rs"⟩⟩]

/-- A loader that counts its calls and has one file. -/
def loadUrl (path : Path) : StateM Nat (Except String String) := do
  modify (· + 1)
  return if path.text = "url.rs" then .ok "pub type Url = u8;" else .error path.text

/-- The second of three files cannot be loaded, and the third is not tried. -/
theorem aliases_after_overrides_sixScalars :
    (∀ t ∈ sixScalars.types, t.scalarSource? = none)
      ∧ ∃ loaded o,
        ((generate (Override.merge scalarOverrides sixScalars).1 .default).appendFiles loadUrl
            (Override.merge scalarOverrides sixScalars).1 scalarOverrides).run 0
          = ((o, .error "json.rs"), 2)
        ∧ Loading loadUrl [⟨"url.rs"⟩, ⟨"json.rs"⟩, ⟨"any.rs"⟩] 0 loaded (.error "json.rs") 2
        ∧ o.HoldsSources (Override.merge scalarOverrides sixScalars).1 .default loaded := by
  have hg : ∀ t ∈ sixScalars.types, t.scalarSource? = none := by decide
  have hfiles : effectiveFiles scalarOverrides (Override.merge scalarOverrides sixScalars).1
      = [⟨"url.rs"⟩, ⟨"json.rs"⟩, ⟨"any.rs"⟩] := by decide +kernel
  have hresult : (((generate (Override.merge scalarOverrides sixScalars).1 .default).appendFiles
      loadUrl (Override.merge scalarOverrides sixScalars).1 scalarOverrides).run 0).1.2
      = .error "json.rs" := by rfl
  have hstate : (((generate (Override.merge scalarOverrides sixScalars).1 .default).appendFiles
      loadUrl (Override.merge scalarOverrides sixScalars).1 scalarOverrides).run 0).2 = 2 := by rfl
  obtain ⟨⟨loaded, result, s', o, hrun, hloading, hholds⟩, -⟩ :=
    aliases_after_overrides loadUrl hg .default scalarOverrides 0
  rw [hrun] at hresult hstate
  obtain rfl : s' = 2 := hstate
  cases result with
  | ok => cases hresult
  | error e =>
    obtain rfl : e = "json.rs" := Except.error.inj hresult
    exact ⟨hg, loaded, o, hrun, hfiles ▸ hloading, hholds⟩

end Code
end QueryBuilder
