import QueryBuilder.Proofs.Query.Head

/-!
# Response keys stay valid

The key that `SelectionSet.addField` returns is chosen by the resolver of the set, and looked up
again among the selections.  `SelectionSet.InStep` says that the two agree: of every occurrence
that the resolver remembers there is exactly one field in the set, under the remembered key.

Fields named like generated aliases are the exception, since their bare name may already be the
alias of another field; then they are taken for that field.  The invariant therefore promises them
nothing, and holds for all the others however such names are mixed in (`InStep.mergeOne`).
-/

set_option autoImplicit false

namespace QueryBuilder
namespace Query

/-- Whether the head is that of the field that answers under a key. -/
def Head.answersUnder (key : String) (h : Head) : Bool :=
  h.responseKey? == some key

namespace SelectionSet

theorem mem_responseKeys_of_filter_ne_nil {set : SelectionSet} {key : String}
    (h : set.heads.filter (·.answersUnder key) ≠ []) : key ∈ set.responseKeys := by
  obtain ⟨head, hhead⟩ := List.exists_mem_of_ne_nil _ h
  obtain ⟨hmem, hkey⟩ := List.mem_filter.1 hhead
  exact List.mem_filterMap.2 ⟨head, hmem, by simpa [Head.answersUnder] using hkey⟩

/-- The resolver of a set and its fields agree. -/
structure InStep (set : SelectionSet) : Prop where
  /-- Of every remembered occurrence of a field that is not named like an alias, there is exactly
  one field under its key. -/
  answered : ∀ o ∈ set.aliases.occurrences, isAlias o.field = false →
    ∃ alias?, set.heads.filter (·.answersUnder o.key) = [.field o.field alias? o.signature]
  /-- Every key in use has been handed out by the resolver. -/
  known : ∀ key ∈ set.responseKeys, key = typenameField ∨ key ∈ set.aliases.keys
  /-- Keys are bare names or aliases, and `__typename` is not remembered. -/
  shape : ∀ o ∈ set.aliases.occurrences,
    o.field ≠ typenameField ∧ (o.key = o.field ∨ isAlias o.key = true)

theorem InStep.empty : InStep .empty where
  answered _ h := absurd h List.not_mem_nil
  known _ h := absurd h List.not_mem_nil
  shape _ h := absurd h List.not_mem_nil

/-- A new key of a field that is not named like an alias is not in use. -/
theorem InStep.newKey_not_mem {set : SelectionSet} (h : set.InStep) {name : String}
    (hname : name ≠ typenameField) (halias : isAlias name = false) (index : Nat) :
    set.aliases.newKey name index ∉ set.responseKeys := by
  intro hmem
  rcases set.aliases.newKey_eq_or name index with ⟨hkey, hmentions⟩ | ⟨hkey, hfresh⟩
  · -- The bare name is in use: then the field has occurred, or an alias looks like its name.
    rw [hkey] at hmem
    rcases h.known name hmem with htypename | hknown
    · exact hname htypename
    · obtain ⟨o, ho, rfl⟩ := List.mem_map.1 hknown
      rcases (h.shape o ho).2 with hbare | hshape
      · have := AliasResolver.mentions_iff.2 ⟨o, ho, hbare.symm⟩
        rw [hmentions] at this
        exact absurd this (by decide)
      · rw [halias] at hshape
        exact absurd hshape (by decide)
  · rcases h.known _ hmem with htypename | hknown
    · rw [htypename, isAlias_typenameField] at hkey
      exact absurd hkey (by decide)
    · exact hfresh hknown

section

variable {set : SelectionSet} (h : set.InStep) {name : String} {arguments : List Argument}
  {nested : Option SelectionSet} {change : Option SelectionSet → Option SelectionSet}
include h

/-- An occurrence of a field leaves the earlier ones in their places. -/
theorem InStep.answered_place {o : Occurrence} (ho : o ∈ set.aliases.occurrences)
    (halias : isAlias o.field = false) :
    ∃ alias?, (set.place name arguments nested change).heads.filter (·.answersUnder o.key)
      = [.field o.field alias? o.signature] := by
  obtain ⟨alias?, hfilter⟩ := h.answered o ho halias
  refine ⟨alias?, ?_⟩
  by_cases hmem : (set.resolve name arguments).1 ∈ set.responseKeys
  · rw [heads_place_of_mem hmem, hfilter]
  · -- The key of the new head is not in use, but that of the earlier occurrence is.
    have hne : (set.resolve name arguments).1 ≠ o.key := by
      intro heq
      refine hmem (heq ▸ mem_responseKeys_of_filter_ne_nil ?_)
      rw [hfilter]
      exact List.cons_ne_nil _ _
    have hother : (newHead (set.resolve name arguments).1 name arguments).answersUnder o.key
        = false := by
      rw [Head.answersUnder, responseKey?_newHead]
      exact beq_eq_false_iff_ne.2 fun heq ↦ hne (Option.some.inj heq)
    rw [heads_place_of_not_mem hmem, List.filter_append, hfilter,
      List.filter_cons_of_neg (by simp [hother]), List.filter_nil, List.append_nil]

/-- A new occurrence gets a field of its own. -/
theorem InStep.answered_place_self (hname : name ≠ typenameField) (halias : isAlias name = false)
    (hkey : (set.resolve name arguments).1 = set.aliases.newKey name set.selections.length) :
    ∃ alias?, (set.place name arguments nested change).heads.filter
        (·.answersUnder (set.resolve name arguments).1)
      = [.field name alias? (renderArguments arguments)] := by
  have hmem : (set.resolve name arguments).1 ∉ set.responseKeys :=
    hkey ▸ h.newKey_not_mem hname halias _
  have hnone : set.heads.filter (·.answersUnder (set.resolve name arguments).1) = [] := by
    by_contra hne
    exact hmem (mem_responseKeys_of_filter_ne_nil hne)
  have hself : (newHead (set.resolve name arguments).1 name arguments).answersUnder
      (set.resolve name arguments).1 = true := by
    rw [Head.answersUnder, responseKey?_newHead, beq_iff_eq]
  rw [heads_place_of_not_mem hmem, List.filter_append, hnone, List.nil_append,
    List.filter_cons_of_pos hself, List.filter_nil, newHead]
  exact ⟨_, rfl⟩

theorem InStep.known_place : ∀ key ∈ (set.place name arguments nested change).responseKeys,
    key = typenameField ∨ key ∈ (set.place name arguments nested change).aliases.keys := by
  have hold : ∀ key ∈ set.responseKeys,
      key = typenameField ∨ key ∈ (set.resolve name arguments).2.keys := by
    intro key hkey
    refine (h.known key hkey).imp_right fun hknown ↦ ?_
    obtain ⟨o, ho, rfl⟩ := List.mem_map.1 hknown
    exact List.mem_map_of_mem (AliasResolver.mem_resolve ho _ _ _)
  intro key hkey
  rw [aliases_place]
  by_cases hmem : (set.resolve name arguments).1 ∈ set.responseKeys
  · rw [responseKeys, heads_place_of_mem hmem] at hkey
    exact hold key hkey
  · rw [responseKeys, heads_place_of_not_mem hmem, List.filterMap_append,
      List.mem_append] at hkey
    rcases hkey with hkey | hkey
    · exact hold key hkey
    · obtain ⟨head, hhead, hkey⟩ := List.mem_filterMap.1 hkey
      rw [List.mem_singleton.1 hhead, responseKey?_newHead] at hkey
      obtain rfl := Option.some.inj hkey
      by_cases hname : name = typenameField
      · subst hname
        exact .inl (congrArg Prod.fst (AliasResolver.resolve_typenameField ..))
      · exact .inr (List.mem_map_of_mem (f := Occurrence.key)
          (AliasResolver.mem_resolve_self hname set.aliases (renderArguments arguments)
            set.selections.length))

theorem InStep.place : (set.place name arguments nested change).InStep where
  answered o ho halias := by
    rw [aliases_place] at ho
    rcases AliasResolver.of_mem_resolve ho with ho | ⟨hname, rfl, hkey⟩
    · exact h.answered_place ho halias
    · exact h.answered_place_self hname halias hkey
  known := h.known_place
  shape o ho := by
    rw [aliases_place] at ho
    rcases AliasResolver.of_mem_resolve ho with ho | ⟨hname, rfl, hkey⟩
    · exact h.shape o ho
    · refine ⟨hname, ?_⟩
      rw [hkey]
      exact (set.aliases.newKey_eq_or name _).imp And.left And.left

omit h in
theorem responseKeys_eq_of_fragment {set' : SelectionSet} {condition : String}
    (hheads : set'.heads = set.heads ∨ set'.heads = set.heads ++ [.fragment condition]) :
    set'.responseKeys = set.responseKeys
      ∧ ∀ key, set'.heads.filter (·.answersUnder key) = set.heads.filter (·.answersUnder key) := by
  rcases hheads with hheads | hheads
  · exact ⟨by rw [responseKeys, hheads, ← responseKeys], fun key ↦ by rw [hheads]⟩
  · refine ⟨?_, fun key ↦ ?_⟩
    · rw [responseKeys, hheads, List.filterMap_append]
      simp [Head.responseKey?, responseKeys]
    · rw [hheads, List.filter_append]
      simp [Head.answersUnder, Head.responseKey?]

theorem InStep.placeFragment {condition : String} {nested : SelectionSet}
    {change : SelectionSet → SelectionSet} :
    (set.placeFragment condition nested change).InStep := by
  have hheads : (set.placeFragment condition nested change).heads = set.heads
      ∨ (set.placeFragment condition nested change).heads = set.heads ++ [.fragment condition] :=
    heads_placeFragment
  obtain ⟨hkeys, hfilter⟩ := responseKeys_eq_of_fragment hheads
  refine ⟨?_, ?_, ?_⟩
  · rw [aliases_placeFragment]
    intro o ho halias
    rw [hfilter]
    exact h.answered o ho halias
  · rw [hkeys, aliases_placeFragment]
    exact h.known
  · rw [aliases_placeFragment]
    exact h.shape

end

/-! ## Every call keeps the invariant -/

theorem InStep.mergeOne (set : SelectionSet) (s : Selection) (h : set.InStep) :
    (set.mergeOne s).InStep := by
  cases s with
  | field name alias? arguments nested => rw [SelectionSet.mergeOne]; exact h.place
  | fragment condition nested => rw [SelectionSet.mergeOne]; exact h.placeFragment

theorem mem_aliases_mergeOne {o : Occurrence} (set : SelectionSet) (s : Selection)
    (h : o ∈ set.aliases.occurrences) : o ∈ (set.mergeOne s).aliases.occurrences := by
  cases s with
  | field name alias? arguments nested =>
    rw [mergeOne, aliases_place]
    exact AliasResolver.mem_resolve h _ _ _
  | fragment condition nested => rw [mergeOne, aliases_placeFragment]; exact h

theorem InStep.of_built {allowed : String → Prop} {set : SelectionSet}
    (h : set.Built allowed) : set.InStep :=
  h.of_mergeOne .empty InStep.mergeOne

/-- An occurrence that is remembered is still answered after any further calls. -/
theorem InStep.answered_run {set : SelectionSet} (h : set.InStep) {o : Occurrence}
    (ho : o ∈ set.aliases.occurrences) (halias : isAlias o.field = false) (later : List Step) :
    ∃ alias?, (set.run later).heads.filter (·.answersUnder o.key)
      = [.field o.field alias? o.signature] := by
  have hrun : (set.run later).InStep ∧ o ∈ (set.run later).aliases.occurrences :=
    run_of_mergeOne (P := fun set ↦ set.InStep ∧ o ∈ set.aliases.occurrences)
      (fun set s hs ↦ ⟨hs.1.mergeOne set s, mem_aliases_mergeOne set s hs.2⟩) ⟨h, ho⟩ later
  exact hrun.1.answered o hrun.2 halias

/-- The field behind a head. -/
theorem exists_of_heads_filter_eq_singleton {set : SelectionSet} {key name signature : String}
    {alias? : Option String}
    (h : set.heads.filter (·.answersUnder key) = [.field name alias? signature]) :
    ∃ arguments nested,
      set.selections.filter (·.answersUnder key) = [.field name alias? arguments nested]
        ∧ renderArguments arguments = signature := by
  rw [heads, List.filter_map, List.map_eq_singleton_iff] at h
  obtain ⟨s, hs, hhead⟩ := h
  have htest : (Head.answersUnder key ∘ Selection.head) = Selection.answersUnder key := by
    funext s
    rw [Function.comp_apply, Head.answersUnder, Selection.responseKey?_head,
      Selection.answersUnder]
  cases s with
  | field name' alias?' arguments nested =>
    obtain ⟨rfl, rfl, rfl⟩ := Head.field.inj hhead
    exact ⟨arguments, nested, htest ▸ hs, rfl⟩
  | fragment => cases hhead

/-- **The key of a field stays valid.**  Whatever calls follow, exactly one field of the set answers
under the key, and it is the selected field with the selected arguments. -/
theorem answers_forever {set : SelectionSet} (hset : set.Reachable) {name : String}
    (hname : name ≠ typenameField) (halias : isAlias name = false) (arguments : List Argument)
    (nested : Option SelectionSet) (later : List Step) :
    ∃ alias? arguments' nested',
      ((set.addField name arguments nested).2.run later).selections.filter
          (·.answersUnder (set.addField name arguments nested).1)
        = [.field name alias? arguments' nested']
      ∧ renderArguments arguments' = renderArguments arguments := by
  have hstep : (set.addField name arguments nested).2.InStep :=
    (InStep.of_built hset).mergeOne set _
  have hmem : ⟨name, renderArguments arguments, (set.addField name arguments nested).1⟩
      ∈ (set.addField name arguments nested).2.aliases.occurrences := by
    rw [addField, mergeOne, aliases_place]
    exact AliasResolver.mem_resolve_self hname _ _ _
  obtain ⟨alias?, hfilter⟩ := hstep.answered_run hmem halias later
  obtain ⟨arguments', nested', hselections, hrender⟩ := exists_of_heads_filter_eq_singleton hfilter
  exact ⟨alias?, arguments', nested', hselections, hrender⟩

/-- The key of a second `user` survives a field that is named like it, with arguments of its own,
and the merge of a set in which the same occurrence comes first. -/
theorem answers_forever_user :
    (empty.run [.field "user" [] none]).Reachable
      ∧ ((empty.run [.field "user" [] none]).addField "user" [⟨"id", .int 2⟩] none).1 = "__alias_1"
      ∧ "user" ≠ typenameField ∧ isAlias "user" = false
      ∧ ∃ alias? arguments' nested',
        (((empty.run [.field "user" [] none]).addField "user" [⟨"id", .int 2⟩] none).2.run
            [.field "__alias_1" [⟨"id", .int 3⟩] none,
              .merge (empty.run [.field "user" [⟨"id", .int 2⟩] none])]).selections.filter
            (·.answersUnder
              ((empty.run [.field "user" [] none]).addField "user" [⟨"id", .int 2⟩] none).1)
          = [.field "user" alias? arguments' nested']
        ∧ renderArguments arguments' = renderArguments [⟨"id", .int 2⟩] := by
  have hset : (empty.run [.field "user" [] none]).Reachable :=
    Built.run .empty (List.forall_mem_singleton.2 (Step.allowed_leaf trivial []))
  exact ⟨hset, by decide, by decide, by decide,
    answers_forever hset (by decide) (by decide) [⟨"id", .int 2⟩] none _⟩

end SelectionSet

end Query
end QueryBuilder
