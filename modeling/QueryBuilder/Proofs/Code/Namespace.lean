import QueryBuilder.Proofs.Code.Names
import QueryBuilder.Proofs.Name.Claims
import QueryBuilder.Proofs.Name.Legal

/-!
# The namespace of a generated module

Everything that a generated module declares shares one namespace.  Its identifiers are claimed in
three rounds over the types, and the three rounds together are the claims of one list of names from
one scope (`Names.claimed_eq`).

## What is here

* `Names.claimed` — the identifiers that are claimed for the types of a graph.
* `Names.requests` — the names they are claimed for, in order.
* `Names.modules_eq` — no module is called like a keyword, so modules are what the scope hands out,
  whatever the types are called.
* `Names.claimed_distinct` — no two claimed identifiers agree, not even after raw marks are dropped,
  and none is a reserved name.

What has to be asked of type names is only that they are names and no keywords without a raw
spelling.  A request of the later rounds is never such a keyword: `XSelection` and `XVariant` are
longer than any of them, and modules are kept off keywords.
-/

set_option autoImplicit false

namespace QueryBuilder

namespace Code
namespace Names

open Schema

/-- A word has no raw mark to drop. -/
theorem stem_of_isWord {s : String} (h : Name.isWord s = true) : stem s = s := by
  have hmark : ∀ cs : List Char, (∀ c ∈ cs, Name.isNameChar c = true) → stem.dropMarks cs = cs := by
    intro cs hcs
    rw [stem.dropMarks.eq_def]
    split
    · exact absurd (hcs '#' (by simp)) (by decide)
    · rfl
  rw [stem, hmark _ (Name.isWord_iff.1 h), String.ofList_toList]

theorem stem_raw {s : String} (h : Name.isWord s = true) : stem ("r#" ++ s) = s := by
  have hdrop : stem.dropMarks ("r#" ++ s).toList = stem.dropMarks s.toList := by
    rw [String.toList_append]
    rfl
  have hs := stem_of_isWord h
  rw [stem] at hs ⊢
  rw [hdrop, hs]

/-- **Dropping raw marks undoes escaping**, save for the keywords without a raw spelling. -/
theorem stem_escape {s : String} (h : Name.isWord s = true) (hplain : s ∉ Name.plainKeywords) :
    stem (Name.escape s) = s := by
  by_cases hraw : s ∈ Name.rawKeywords
  · rw [Name.escape_of_mem_rawKeywords hraw, stem_raw h]
  · rw [Name.escape_of_not_mem hplain hraw, stem_of_isWord h]

theorem isWord_stem_escape {s : String} (h : Name.isWord s = true) :
    Name.isWord (stem (Name.escape s)) = true := by
  by_cases hplain : s ∈ Name.plainKeywords
  · have hspelling : Name.isWord (s ++ "_") = true := by
      rw [Name.isWord_append, h]
      rfl
    rw [Name.escape_of_mem_plainKeywords hplain, stem_of_isWord hspelling]
    exact hspelling
  · rw [stem_escape h hplain]
    exact h

/-! ## Rounds -/

/-- **A round over a list is the claims of the names that its elements ask for.** -/
theorem claimAll_flatMap {α β : Type} {claim : Name.Scope → α → β × Name.Scope}
    {asks : α → List String} {gets : α × β → List String}
    (h : ∀ s a, s.claimAll (asks a) = (gets (a, (claim s a).1), (claim s a).2))
    (scope : Name.Scope) (l : List α) :
    scope.claimAll (l.flatMap asks)
      = ((l.zip (round claim scope l).1).flatMap gets, (round claim scope l).2) := by
  induction l generalizing scope with
  | nil => rfl
  | cons a rest ih =>
    rw [List.flatMap_cons, Name.Scope.claimAll_append, h, ih]
    rfl

variable (g : TypeGraph) (options : Options)

/-- The identifiers of the types. -/
def identRound : List String × Name.Scope :=
  round (claimIdent options) startScope g.types

/-- The selection builders and variant enums. -/
def partRound : List (Option String × Option String) × Name.Scope :=
  round (fun scope entry ↦ claimParts options scope entry.1 entry.2) (identRound g options).2
    (g.types.zip (identRound g options).1)

/-- The modules. -/
def moduleRound : List (Option String) × Name.Scope :=
  round (claimModule options) (partRound g options).2 g.types

theorem ofGraph_eq : ofGraph g options
    = ⟨((identRound g options).1.zip ((partRound g options).1.zip (moduleRound g options).1)).map
        fun entry ↦ ⟨entry.1, entry.2.1.1, entry.2.1.2, entry.2.2⟩⟩ :=
  rfl

/-- Whether the identifier of a type is claimed: a built-in scalar keeps its name, and so does a
type that is left out. -/
def isNamed (options : Options) (t : NamedType) : Bool :=
  !t.isBuiltinScalar && (options.emits t || t.kind == .scalar)

/-- The names that a type asks for in the first round. -/
def identAsks (t : NamedType) : List String :=
  if isNamed options t then [t.name] else []

/-- The names that a type asks for in the second round. -/
def partAsks (entry : NamedType × String) : List String :=
  if options.emits entry.1 && entry.1.kind.isComposite then
    (stem entry.2 ++ "Selection")
      :: (if entry.1.kind.isAbstract then [stem entry.2 ++ "Variant"] else [])
  else []

/-- The names that a type asks for in the third round. -/
def moduleAsks (t : NamedType) : List String :=
  if options.emits t then [moduleBase t] else []

/-- The identifier of a type, if it is claimed. -/
def claimedIdent (entry : NamedType × String) : List String :=
  if isNamed options entry.1 then [entry.2] else []

section

variable {options}

theorem mem_identAsks_iff {t : NamedType} {r : String} :
    r ∈ identAsks options t ↔ isNamed options t = true ∧ r = t.name := by
  rw [identAsks]
  split_ifs with h <;> simp [h]

theorem exists_of_mem_partAsks {entry : NamedType × String} {r : String}
    (h : r ∈ partAsks options entry) :
    ∃ part ∈ ["Selection", "Variant"], r = stem entry.2 ++ part := by
  rw [partAsks] at h
  split_ifs at h with hemits habstract
  · simpa using h
  · exact ⟨"Selection", List.mem_cons_self, List.mem_singleton.1 h⟩
  · exact absurd h List.not_mem_nil

theorem mem_moduleAsks_iff {t : NamedType} {r : String} :
    r ∈ moduleAsks options t ↔ options.emits t = true ∧ r = moduleBase t := by
  rw [moduleAsks]
  split_ifs with h <;> simp [h]

end

theorem claimAll_identAsks (scope : Name.Scope) (t : NamedType) :
    scope.claimAll (identAsks options t)
      = (claimedIdent options (t, (claimIdent options scope t).1),
        (claimIdent options scope t).2) := by
  rw [identAsks, claimedIdent, isNamed, claimIdent]
  cases t.isBuiltinScalar <;> cases (options.emits t || t.kind == .scalar) <;> rfl

theorem claimAll_partAsks (scope : Name.Scope) (entry : NamedType × String) :
    scope.claimAll (partAsks options entry)
      = ((claimParts options scope entry.1 entry.2).1.1.toList
          ++ (claimParts options scope entry.1 entry.2).1.2.toList,
        (claimParts options scope entry.1 entry.2).2) := by
  rw [partAsks, claimParts]
  cases (options.emits entry.1 && entry.1.kind.isComposite) <;>
    cases entry.1.kind.isAbstract <;> rfl

theorem claimAll_moduleAsks (scope : Name.Scope) (t : NamedType) :
    scope.claimAll (moduleAsks options t)
      = ((claimModule options scope t).1.toList, (claimModule options scope t).2) := by
  rw [moduleAsks, claimModule]
  cases options.emits t <;> rfl

/-- The names that the types of a graph ask for, in order. -/
def requests : List String :=
  g.types.flatMap (identAsks options)
    ++ (g.types.zip (identRound g options).1).flatMap (partAsks options)
    ++ g.types.flatMap (moduleAsks options)

/-- The identifiers that are claimed for the types of a graph: those of the types themselves, then
the selection builders and variant enums, then the modules. -/
def claimed (names : Names) : List String :=
  (g.types.zip (names.types.map (·.ident))).flatMap (claimedIdent options)
    ++ names.types.flatMap (fun n ↦ n.builder?.toList ++ n.variants?.toList)
    ++ names.types.flatMap (·.module?.toList)

theorem length_identRound : (identRound g options).1.length = g.types.length :=
  length_round ..

theorem length_partRound : (partRound g options).1.length = g.types.length := by
  rw [partRound, length_round, List.length_zip, length_identRound, Nat.min_self]

theorem length_moduleRound : (moduleRound g options).1.length = g.types.length :=
  length_round ..

theorem length_rounds : ((partRound g options).1.zip (moduleRound g options).1).length
    = (identRound g options).1.length := by
  rw [List.length_zip, length_partRound, length_moduleRound, length_identRound, Nat.min_self]

theorem map_ident_ofGraph :
    (ofGraph g options).types.map (·.ident) = (identRound g options).1 := by
  rw [ofGraph_eq, List.map_map]
  exact List.map_fst_zip (length_rounds g options).ge

theorem map_snd_ofGraph {β : Type} (f : (Option String × Option String) × Option String → β) :
    (ofGraph g options).types.map (fun n ↦ f ((n.builder?, n.variants?), n.module?))
      = ((partRound g options).1.zip (moduleRound g options).1).map f := by
  rw [ofGraph_eq, List.map_map]
  conv_rhs => rw [← List.map_snd_zip (length_rounds g options).le, List.map_map]
  rfl

theorem map_parts_ofGraph :
    (ofGraph g options).types.map (fun n ↦ (n.builder?, n.variants?))
      = (partRound g options).1 := by
  rw [map_snd_ofGraph g options Prod.fst]
  exact List.map_fst_zip (by rw [length_partRound, length_moduleRound])

theorem map_module_ofGraph :
    (ofGraph g options).types.map (·.module?) = (moduleRound g options).1 := by
  rw [map_snd_ofGraph g options Prod.snd]
  exact List.map_snd_zip (by rw [length_partRound, length_moduleRound])

/-- What a round over a list gets, where only the results say it. -/
theorem flatMap_zip_snd {α β γ : Type} (f : β → List γ) {l : List α} {m : List β}
    (h : m.length ≤ l.length) : (l.zip m).flatMap (fun entry ↦ f entry.2) = m.flatMap f := by
  conv_rhs => rw [← List.map_snd_zip h, List.flatMap_map]

theorem claimAll_types : startScope.claimAll (g.types.flatMap (identAsks options))
    = ((g.types.zip (identRound g options).1).flatMap (claimedIdent options),
      (identRound g options).2) :=
  claimAll_flatMap (claimAll_identAsks options) startScope g.types

theorem claimAll_parts : (identRound g options).2.claimAll
      ((g.types.zip (identRound g options).1).flatMap (partAsks options))
    = ((partRound g options).1.flatMap (fun part ↦ part.1.toList ++ part.2.toList),
      (partRound g options).2) := by
  have hlength : (partRound g options).1.length
      ≤ (g.types.zip (identRound g options).1).length := by
    rw [List.length_zip, length_partRound, length_identRound, Nat.min_self]
  rw [← flatMap_zip_snd (fun part ↦ part.1.toList ++ part.2.toList) hlength]
  exact claimAll_flatMap (claimAll_partAsks options) _ _

theorem claimAll_modules : (partRound g options).2.claimAll (g.types.flatMap (moduleAsks options))
    = ((moduleRound g options).1.flatMap Option.toList, (moduleRound g options).2) := by
  rw [← flatMap_zip_snd Option.toList (length_moduleRound g options).le]
  exact claimAll_flatMap (claimAll_moduleAsks options) _ _

/-- **The three rounds are the claims of one list of names.** -/
theorem claimed_eq : claimed g options (ofGraph g options)
    = (startScope.claimAll (requests g options)).1 := by
  rw [requests, Name.Scope.claimAll_append, Name.Scope.claimAll_append, claimAll_types,
    claimAll_parts, claimAll_modules, claimed, map_ident_ofGraph]
  rw [← map_parts_ofGraph, ← map_module_ofGraph, List.flatMap_map, List.flatMap_map]

/-! ## Modules -/

theorem keyword_of_escape_ne {s : String} (h : Name.escape s ≠ s) :
    s ∈ Name.plainKeywords ++ Name.rawKeywords := by
  by_contra hnot
  rw [List.mem_append, not_or] at hnot
  exact h (Name.escape_of_not_mem hnot.1 hnot.2)

/-- What a module would like to be called is no keyword. -/
theorem moduleBase_not_mem (t : NamedType) :
    moduleBase t ∉ Name.plainKeywords ++ Name.rawKeywords := by
  have hescape : ∀ k ∈ Name.plainKeywords ++ Name.rawKeywords, Name.escape k ≠ k := by
    decide +kernel
  have hunderscore : ∀ k ∈ Name.plainKeywords ++ Name.rawKeywords,
      k ++ "_" ∉ Name.plainKeywords ++ Name.rawKeywords := by
    decide +kernel
  rw [moduleBase]
  split
  · rename_i heq
    exact fun hmem ↦ hescape _ hmem heq
  · rename_i hne
    exact hunderscore _ (keyword_of_escape_ne hne)

theorem isWord_moduleBase {t : NamedType} (h : Name.isName t.name = true) :
    Name.isWord (moduleBase t) = true := by
  have hsnake : Name.isWord (Name.snake t.name) = true :=
    Name.isWord_iff.2 (Name.Case.snake.isNameChar_apply h)
  rw [moduleBase]
  split
  · exact hsnake
  · rw [Name.isWord_append, hsnake]
    rfl

/-- The names in use when the modules are claimed. -/
theorem mem_taken_partRound {x : String} (hx : x ∈ builtinScalars ++ reservedNames) :
    x ∈ (partRound g options).2.taken := by
  have hscope := congrArg Prod.snd (claimAll_parts g options)
  have hscope' := congrArg Prod.snd (claimAll_types g options)
  rw [← hscope, Name.Scope.taken_claimAll, ← hscope', Name.Scope.taken_claimAll]
  exact List.mem_append_right _ (List.mem_append_right _ hx)

theorem convention_partRound : (partRound g options).2.convention = .verbatim := by
  have hscope := congrArg Prod.snd (claimAll_parts g options)
  have hscope' := congrArg Prod.snd (claimAll_types g options)
  rw [← hscope, Name.Scope.convention_claimAll, ← hscope', Name.Scope.convention_claimAll]
  rfl

theorem apply_ne_keyword_of_mem_moduleAsks {name : String}
    (h : name ∈ g.types.flatMap (moduleAsks options)) :
    (partRound g options).2.convention.apply name ∉ Name.plainKeywords ++ Name.rawKeywords := by
  obtain ⟨t, -, ht⟩ := List.mem_flatMap.1 h
  obtain ⟨-, rfl⟩ := mem_moduleAsks_iff.1 ht
  rw [convention_partRound]
  exact moduleBase_not_mem t

/-- **Modules are what the scope hands out**, because none of them is a keyword. -/
theorem modules_eq : (ofGraph g options).types.flatMap (·.module?.toList)
    = (partRound g options).2.freeAll (g.types.flatMap (moduleAsks options)) := by
  have hclaims := congrArg Prod.fst (claimAll_modules g options)
  rw [Name.Scope.idents_claimAll_of_not_keyword fun _ h ↦
    apply_ne_keyword_of_mem_moduleAsks g options h] at hclaims
  rw [hclaims, ← map_module_ofGraph, List.flatMap_map]

theorem not_keyword_of_mem_modules {module : String}
    (h : module ∈ (partRound g options).2.freeAll (g.types.flatMap (moduleAsks options))) :
    module ∉ Name.plainKeywords ++ Name.rawKeywords :=
  Name.Scope.not_keyword_of_mem_freeAll
    (fun _ h ↦ apply_ne_keyword_of_mem_moduleAsks g options h) h

/-- **The module of a type is called as it would like to be**, perhaps with a number. -/
theorem exists_module_eq_candidate {id : TypeId} {t : NamedType} (h : g.get? id = some t)
    {module : String} (hmodule : ((ofGraph g options).get? id).bind (·.module?) = some module) :
    ∃ n, module = Name.Scope.candidate .verbatim (moduleBase t) n := by
  have hkeeps : ∀ (s : Name.Scope) (t : NamedType), s.convention = .verbatim →
      (claimModule options s t).2.convention = .verbatim := by
    intro s t hs
    rw [claimModule]
    split_ifs
    · exact hs
    · exact hs
  have hround := forall₂_round_of (claimModule options) hkeeps (convention_partRound g options)
    g.types
  have hat : (moduleRound g options).1[id.index]? = some (some module) := by
    obtain ⟨n, hn, hn'⟩ := Option.bind_eq_some_iff.1 hmodule
    rw [← map_module_ofGraph, List.getElem?_map]
    exact (congrArg (Option.map (·.module?)) hn).trans (congrArg some hn')
  obtain ⟨hi, ht⟩ := List.getElem?_eq_some_iff.1 h
  obtain ⟨hi', hm⟩ := List.getElem?_eq_some_iff.1 hat
  obtain ⟨before, hbefore, hclaim⟩ := hround.get hi hi'
  have hsome : (claimModule options before t).1 = some module := ht ▸ hclaim.trans hm
  rw [claimModule] at hsome
  split_ifs at hsome
  obtain ⟨n, hn⟩ : ∃ n, before.free (moduleBase t)
      = Name.Scope.candidate .verbatim (moduleBase t) n := by
    rw [Name.Scope.free, hbefore]
    exact ⟨_, rfl⟩
  refine ⟨n, (Option.some.inj hsome).symm.trans ?_⟩
  -- A module that were a keyword would be what its type asks for, which is none.
  rw [Name.Scope.claim, hn]
  by_contra hne
  have hkeyword := keyword_of_escape_ne hne
  exact moduleBase_not_mem t (Name.Scope.eq_base_of_keyword hkeyword ▸ hkeyword)

/-! ## Requests -/

section

variable {g options} (hnames : ∀ t ∈ g.types, Name.isName t.name = true)
include hnames

/-- The identifier of a type is a word but for its raw mark. -/
theorem isWord_stem_ident {ident : String} (h : ident ∈ (identRound g options).1) :
    Name.isWord (stem ident) = true := by
  obtain ⟨t, ht, s, rfl⟩ : ∃ t ∈ g.types, ∃ s, (claimIdent options s t).1 = ident := by
    have hround := forall₂_round (claimIdent options) startScope g.types
    obtain ⟨i, hi, rfl⟩ := List.mem_iff_getElem.1 h
    have hi' : i < g.types.length := length_identRound g options ▸ hi
    exact ⟨g.types[i], List.getElem_mem _, hround.get hi' hi⟩
  have hname := hnames t ht
  rw [claimIdent]
  split_ifs
  · rw [stem_of_isWord (Name.isWord_of_isName hname)]
    exact Name.isWord_of_isName hname
  · exact isWord_stem_escape (Name.isWord_free s hname)
  · rw [stem_of_isWord (Name.isWord_of_isName hname)]
    exact Name.isWord_of_isName hname

omit hnames in
/-- Something longer than every keyword without a raw spelling. -/
theorem not_mem_plainKeywords {s : String} (h : 5 < s.length) : s ∉ Name.plainKeywords := by
  have hshort : ∀ k ∈ Name.plainKeywords, k.length ≤ 5 := by decide
  exact fun hmem ↦ absurd (hshort s hmem) (by omega)

/-- **What is asked for consists of words, and no later round asks for a keyword without a raw
spelling.** -/
theorem of_mem_requests {r : String} (h : r ∈ requests g options) :
    Name.isWord r = true
      ∧ ((∀ t ∈ g.types, t.name ∉ Name.plainKeywords) → r ∉ Name.plainKeywords) := by
  rw [requests, List.mem_append, List.mem_append] at h
  simp only [List.mem_flatMap] at h
  rcases h with (⟨t, ht, hr⟩ | ⟨entry, hentry, hr⟩) | ⟨t, ht, hr⟩
  · obtain ⟨-, rfl⟩ := mem_identAsks_iff.1 hr
    exact ⟨Name.isWord_of_isName (hnames t ht), fun hplain ↦ hplain t ht⟩
  · have hparts : ∀ part ∈ ["Selection", "Variant"],
        Name.isWord part = true ∧ 5 < part.length := by
      decide
    obtain ⟨part, hpart, rfl⟩ := exists_of_mem_partAsks hr
    obtain ⟨hword, hlong⟩ := hparts part hpart
    refine ⟨?_, fun _ ↦ not_mem_plainKeywords ?_⟩
    · rw [Name.isWord_append, isWord_stem_ident hnames (List.of_mem_zip hentry).2, hword,
        Bool.and_self]
    · rw [String.length_append]
      exact Nat.lt_of_lt_of_le hlong (Nat.le_add_left _ _)
  · obtain ⟨-, rfl⟩ := mem_moduleAsks_iff.1 hr
    refine ⟨isWord_moduleBase (hnames t ht), fun _ hmem ↦ ?_⟩
    exact moduleBase_not_mem t (List.mem_append_left _ hmem)

end

/-- The claimed identifiers without their raw marks. -/
theorem map_stem_claimed
    (hnames : ∀ t ∈ g.types, Name.isName t.name = true ∧ t.name ∉ Name.plainKeywords) :
    (claimed g options (ofGraph g options)).map stem
      = startScope.freeAll (requests g options) := by
  have hstem : ∀ x ∈ startScope.freeAll (requests g options), stem (Name.escape x) = x := by
    intro x hx
    obtain ⟨r, hr, n, rfl⟩ := Name.Scope.exists_candidate_of_mem_freeAll hx
    obtain ⟨hword, hplain⟩ := of_mem_requests (fun t ht ↦ (hnames t ht).1) hr
    refine stem_escape (Name.isWord_candidate hword n) fun hmem ↦ ?_
    have hbase : Name.Scope.candidate .verbatim r n = r :=
      Name.Scope.eq_base_of_keyword (List.mem_append_left _ hmem)
    exact hplain (fun t ht ↦ (hnames t ht).2) (hbase ▸ hmem)
  rw [claimed_eq, Name.Scope.idents_claimAll, List.map_map]
  exact (List.map_congr_left hstem).trans (List.map_id' _)

/-- **The identifiers of a generated module do not collide.**  Every type has the identifiers that
it is to have.  No two of them agree, not even without their raw marks, and none of them is a
reserved name or a built-in scalar. -/
theorem claimed_distinct (g : TypeGraph) (options : Options)
    (hnames : ∀ t ∈ g.types, Name.isName t.name = true ∧ t.name ∉ Name.plainKeywords) :
    (∀ id t, g.get? id = some t → ∃ n, (ofGraph g options).get? id = some n ∧ Fit options t n)
      ∧ ((claimed g options (ofGraph g options)).map stem).Nodup
      ∧ ∀ ident ∈ claimed g options (ofGraph g options),
          ident ∉ builtinScalars ++ reservedNames
            ∧ stem ident ∉ builtinScalars ++ reservedNames := by
  have hmap := map_stem_claimed g options hnames
  refine ⟨fun id t h ↦ exists_fit h options, hmap ▸ Name.Scope.nodup_freeAll, fun ident hident ↦ ?_⟩
  have hstem : stem ident ∉ builtinScalars ++ reservedNames := by
    have hmem : stem ident ∈ startScope.freeAll (requests g options) :=
      hmap ▸ List.mem_map_of_mem hident
    exact Name.Scope.freeAll_not_mem hmem
  -- A reserved name has no raw mark.
  have hreserved : ∀ x ∈ builtinScalars ++ reservedNames, stem x = x := by decide +kernel
  exact ⟨fun hmem ↦ hstem ((hreserved ident hmem).symm ▸ hmem), hstem⟩

/-- Types that are called like keywords, like reserved names and like the builders and modules of
each other. -/
def crossedGraph : TypeGraph where
  types := [
    ⟨"type", none, .object [] []⟩,
    ⟨"Type", none, .enum []⟩,
    ⟨"typeSelection", none, .inputObject []⟩,
    ⟨"Option", none, .union []⟩,
    ⟨"option", none, .enum []⟩,
    ⟨"aliases", none, .scalar none⟩,
    ⟨"ID", none, .scalar none⟩,
    ⟨"SELF", none, .enum []⟩,
    ⟨"__type", none, .enum []⟩]
  roots := ⟨none, none, none⟩

theorem claimed_distinct_crossedGraph :
    (∀ t ∈ crossedGraph.types, Name.isName t.name = true ∧ t.name ∉ Name.plainKeywords)
      ∧ claimed crossedGraph .default (ofGraph crossedGraph .default)
        = ["r#type", "Type", "typeSelection", "Option2", "option", "aliases2", "SELF",
          "typeSelection2", "Option2Selection", "Option2Variant",
          "type_", "type_2", "type_selection", "option2", "option3", "self_"]
      ∧ ((claimed crossedGraph .default (ofGraph crossedGraph .default)).map stem).Nodup := by
  have hnames : ∀ t ∈ crossedGraph.types,
      Name.isName t.name = true ∧ t.name ∉ Name.plainKeywords := by
    decide +kernel
  exact ⟨hnames, by decide +kernel, (claimed_distinct crossedGraph .default hnames).2.1⟩

end Names
end Code
end QueryBuilder
