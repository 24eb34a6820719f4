import QueryBuilder.Proofs.Query.KeyStability
import QueryBuilder.Proofs.Query.Unambiguous

/-!
# Selecting a field again

A field that is selected again with equal arguments is the earlier occurrence, and with any others
it is a new one.  The arguments are compared by their texts, and the texts are told apart by the
resolver of the set, so two things have to be right: texts stand for values, and the resolver knows
the fields that are there and no others.

## What is here

* `renderArguments_inj` — argument lists with one text are equal.
* `SelectionSet.Remembered` — the resolver remembers every field of the set.  Together with
  `SelectionSet.InStep`, which is about the other direction, it knows exactly the fields that are
  there (`SelectionSet.exists_find?_iff`).
* `SelectionSet.addField_of_selects`, `SelectionSet.addField_of_not_selects` — what a call does in
  each of the two cases.
* `SelectionSet.addField_reuses_iff` — the two cases are told apart by the values of arguments.
-/

set_option autoImplicit false

namespace QueryBuilder
namespace Query

/-! ## Texts of arguments -/

/-- **Argument lists with one text are equal.** -/
theorem renderArguments_inj {as bs : List Argument} (has : ∀ a ∈ as, a.WellNamed)
    (hbs : ∀ b ∈ bs, b.WellNamed) (h : renderArguments as = renderArguments bs) : as = bs := by
  have hend : ∀ text, ([] : List Char) ≠ '(' :: text := fun _ ↦ nofun
  have htexts : (renderArguments as).toList ++ [] = (renderArguments bs).toList ++ [] := by rw [h]
  exact (renderArguments_append_inj has hbs hend hend htexts).1

/-- The arguments of the field can be told from their text. -/
def Selection.ArgumentsNamed : Selection → Prop
  | .field _ _ arguments _ => ∀ a ∈ arguments, a.WellNamed
  | .fragment _ _ => True

/-! ## The first entry that passes a test -/

theorem modifyFirst_append {α : Type} {test : α → Bool} {change : α → α} {front back : List α}
    {a : α} (hfront : ∀ b ∈ front, test b = false) (ha : test a = true) :
    modifyFirst test change (front ++ a :: back) = some (front ++ change a :: back) := by
  induction front with
  | nil => simp [modifyFirst, ha]
  | cons b front ih =>
    obtain ⟨hb, hfront⟩ := List.forall_mem_cons.1 hfront
    simp [modifyFirst, hb, ih hfront]

namespace SelectionSet

/-! ## What the resolver remembers -/

/-- The resolver of the set remembers every field of the set but `__typename`, with its arguments
and its key. -/
def Remembered (set : SelectionSet) : Prop :=
  ∀ name alias? signature, .field name alias? signature ∈ set.heads → name ≠ typenameField →
    ⟨name, signature, alias?.getD name⟩ ∈ set.aliases.occurrences

theorem Remembered.empty : Remembered .empty :=
  fun _ _ _ h ↦ absurd h List.not_mem_nil

theorem Remembered.place {set : SelectionSet} (h : set.Remembered) {name : String}
    {arguments : List Argument} {nested : Option SelectionSet}
    {change : Option SelectionSet → Option SelectionSet} :
    (set.place name arguments nested change).Remembered := by
  have hold : ∀ name' alias? signature, .field name' alias? signature ∈ set.heads →
      name' ≠ typenameField →
      ⟨name', signature, alias?.getD name'⟩ ∈ (set.resolve name arguments).2.occurrences :=
    fun name' alias? signature hmem hname ↦
      AliasResolver.mem_resolve (h name' alias? signature hmem hname) _ _ _
  intro name' alias? signature hmem hname
  rw [aliases_place]
  by_cases hkey : (set.resolve name arguments).1 ∈ set.responseKeys
  · rw [heads_place_of_mem hkey] at hmem
    exact hold _ _ _ hmem hname
  · rw [heads_place_of_not_mem hkey, List.mem_append, List.mem_singleton] at hmem
    rcases hmem with hmem | hnew
    · exact hold _ _ _ hmem hname
    · -- The new field has the key that has just been handed out.
      have hresponse := responseKey?_newHead (set.resolve name arguments).1 name arguments
      rw [← hnew, Head.responseKey?, Option.some.injEq] at hresponse
      obtain ⟨rfl, -, rfl⟩ := Head.field.inj hnew
      rw [hresponse]
      exact AliasResolver.mem_resolve_self hname _ _ _

theorem Remembered.placeFragment {set : SelectionSet} (h : set.Remembered) {condition : String}
    {nested : SelectionSet} {change : SelectionSet → SelectionSet} :
    (set.placeFragment condition nested change).Remembered := by
  intro name alias? signature hmem hname
  rw [aliases_placeFragment]
  rcases heads_placeFragment with hheads | hheads
  · exact h _ _ _ (hheads ▸ hmem) hname
  · rw [hheads, List.mem_append, List.mem_singleton] at hmem
    exact h _ _ _ (hmem.resolve_right nofun) hname

theorem Remembered.mergeOne (set : SelectionSet) (s : Selection) (h : set.Remembered) :
    (set.mergeOne s).Remembered := by
  cases s with
  | field name alias? arguments nested => rw [SelectionSet.mergeOne]; exact h.place
  | fragment condition nested => rw [SelectionSet.mergeOne]; exact h.placeFragment

theorem Remembered.of_built {allowed : String → Prop} {set : SelectionSet}
    (h : set.Built allowed) : set.Remembered :=
  h.of_mergeOne .empty Remembered.mergeOne

/-! ## The two cases of a call -/

/-- The set selects a field with certain arguments. -/
def Selects (set : SelectionSet) (name : String) (arguments : List Argument) : Prop :=
  ∃ alias? nested, .field name alias? arguments nested ∈ set.selections

section

variable {set : SelectionSet} (hset : set.Reachable)
  (harguments : ∀ s ∈ set.selections, s.ArgumentsNamed) {name : String}
  (hname : name ≠ typenameField) (halias : isAlias name = false) {arguments : List Argument}
  (hnamed : ∀ a ∈ arguments, a.WellNamed) (nested : Option SelectionSet)
include hset hname

/-- A field with certain arguments that is there has been remembered. -/
theorem exists_find?_of_selects (h : set.Selects name arguments) :
    ∃ o, set.aliases.find? name (renderArguments arguments) = some o := by
  obtain ⟨alias?, earlier, hmem⟩ := h
  have hremembered := Remembered.of_built hset name alias? (renderArguments arguments)
    (List.mem_map_of_mem (f := Selection.head) hmem) hname
  rw [← Option.ne_none_iff_exists']
  exact fun hnone ↦ AliasResolver.find?_eq_none_iff.1 hnone _ hremembered rfl rfl

include harguments halias hnamed

omit hname in
/-- An occurrence that has been remembered is there, once under its key. -/
theorem exists_split_of_find? {o : Occurrence}
    (h : set.aliases.find? name (renderArguments arguments) = some o) :
    ∃ front back alias? earlier,
      set.selections = front ++ Selection.field name alias? arguments earlier :: back
        ∧ (∀ s ∈ front, s.answersUnder o.key = false) ∧ o.key = alias?.getD name := by
  obtain ⟨ho, rfl, hsignature⟩ := AliasResolver.find?_eq_some h
  obtain ⟨alias?, hfilter⟩ := (InStep.of_built hset).answered o ho halias
  obtain ⟨arguments', earlier, hselections, hrender⟩ :=
    exists_of_heads_filter_eq_singleton hfilter
  obtain ⟨front, back, hsplit, hfront, hkey, -⟩ := List.filter_eq_cons_iff.1 hselections
  have hmem : .field o.field alias? arguments' earlier ∈ set.selections := by
    rw [hsplit]
    exact List.mem_append_right _ List.mem_cons_self
  obtain rfl : arguments' = arguments :=
    renderArguments_inj (harguments _ hmem) hnamed (hrender.trans hsignature)
  refine ⟨front, back, alias?, earlier, hsplit, fun s hs ↦ by simpa using hfront s hs, ?_⟩
  exact (Option.some.inj (Selection.answersUnder_iff.1 hkey)).symm

/-- The resolver knows exactly the fields that are there. -/
theorem exists_find?_iff :
    (∃ o, set.aliases.find? name (renderArguments arguments) = some o) ↔
      set.Selects name arguments := by
  constructor
  · rintro ⟨o, ho⟩
    obtain ⟨front, back, alias?, earlier, hsplit, -⟩ :=
      exists_split_of_find? hset harguments halias hnamed ho
    exact ⟨alias?, earlier, hsplit ▸ List.mem_append_right _ List.mem_cons_self⟩
  · exact exists_find?_of_selects hset hname

/-- **A field that is there with these arguments is reused.**  Its key is returned, and all that
changes is what is selected below it. -/
theorem addField_of_selects (h : set.Selects name arguments) :
    ∃ front back alias? earlier,
      set.selections = front ++ Selection.field name alias? arguments earlier :: back
        ∧ (set.addField name arguments nested).1 = alias?.getD name
        ∧ (set.addField name arguments nested).2.selections
          = front ++ Selection.field name alias? arguments (mergeBelow earlier nested) :: back := by
  obtain ⟨o, ho⟩ := exists_find?_of_selects hset hname h
  obtain ⟨front, back, alias?, earlier, hsplit, hfront, hkey⟩ :=
    exists_split_of_find? hset harguments halias hnamed ho
  have hresolve : set.resolve name arguments = (o.key, set.aliases) :=
    AliasResolver.resolve_of_find?_eq_some hname ho
  have hanswers : (Selection.field name alias? arguments earlier).answersUnder o.key = true := by
    rw [Selection.answersUnder_iff, hkey]
    rfl
  refine ⟨front, back, alias?, earlier, hsplit, ?_, ?_⟩
  · rw [addField, hresolve, hkey]
  · have hmodify : modifyFirst (·.answersUnder (set.resolve name arguments).1)
        (·.mapNested (mergeBelow · nested)) set.selections
          = some (front
            ++ Selection.field name alias? arguments (mergeBelow earlier nested) :: back) := by
      rw [hresolve, hsplit, modifyFirst_append hfront hanswers]
      rfl
    rw [addField, mergeOne, place_of_some hmodify, selections]

/-- **A field that is not there with these arguments is added at the end**, under a key that is not
in use. -/
theorem addField_of_not_selects (h : ¬ set.Selects name arguments) :
    ∃ alias?, (set.addField name arguments nested).1 = alias?.getD name
      ∧ (set.addField name arguments nested).1 ∉ set.responseKeys
      ∧ (set.addField name arguments nested).2.selections
        = set.selections ++ [Selection.field name alias? arguments nested] := by
  have hfind : set.aliases.find? name (renderArguments arguments) = none := by
    rw [← exists_find?_iff hset harguments hname halias hnamed, ← Option.ne_none_iff_exists'] at h
    exact not_not.1 h
  have hkey : (set.resolve name arguments).1 = set.aliases.newKey name set.selections.length :=
    congrArg Prod.fst (AliasResolver.resolve_of_find?_eq_none hname hfind)
  have hfresh : (set.resolve name arguments).1 ∉ set.responseKeys :=
    hkey ▸ (InStep.of_built hset).newKey_not_mem hname halias _
  refine ⟨if (set.resolve name arguments).1 = name then none
    else some (set.resolve name arguments).1, ?_, hfresh, ?_⟩
  · rw [addField]
    split_ifs with hbare
    · rw [Option.getD_none, hbare]
    · rw [Option.getD_some]
  · rw [addField, mergeOne, place_of_none (modifyFirst_answersUnder_eq_none_iff.2 hfresh),
      selections]

end

/-- **Selecting a field again reuses the earlier occurrence exactly if the arguments are equal**, as
values.  Then nothing is added, the key of that occurrence is returned, and its nested selections
take in the new ones.  Otherwise the field is added behind everything that is there, under a key of
its own. -/
theorem addField_reuses_iff {set : SelectionSet} (hset : set.Reachable)
    (harguments : ∀ s ∈ set.selections, s.ArgumentsNamed) {name : String}
    (hname : name ≠ typenameField) (halias : isAlias name = false) {arguments : List Argument}
    (hnamed : ∀ a ∈ arguments, a.WellNamed) (nested : Option SelectionSet) :
    ((set.addField name arguments nested).2.selections.length = set.selections.length
        ∧ (set.addField name arguments nested).1 ∈ set.responseKeys ↔ set.Selects name arguments)
      ∧ (set.Selects name arguments → ∃ front back alias? earlier,
        set.selections = front ++ Selection.field name alias? arguments earlier :: back
          ∧ (set.addField name arguments nested).1 = alias?.getD name
          ∧ (set.addField name arguments nested).2.selections
            = front ++ Selection.field name alias? arguments (mergeBelow earlier nested) :: back)
      ∧ (¬ set.Selects name arguments → ∃ alias?,
        (set.addField name arguments nested).1 = alias?.getD name
          ∧ (set.addField name arguments nested).1 ∉ set.responseKeys
          ∧ (set.addField name arguments nested).2.selections
            = set.selections ++ [Selection.field name alias? arguments nested]) := by
  have hreuse := addField_of_selects hset harguments hname halias hnamed nested
  have hadd := addField_of_not_selects hset harguments hname halias hnamed nested
  refine ⟨⟨fun h ↦ ?_, fun hselects ↦ ?_⟩, hreuse, hadd⟩
  · by_contra hselects
    obtain ⟨alias?, -, -, hselections⟩ := hadd hselects
    have hlength := h.1
    rw [hselections, List.length_append, List.length_singleton] at hlength
    omega
  · obtain ⟨front, back, alias?, earlier, hsplit, hkey, hselections⟩ := hreuse hselects
    refine ⟨by simp [hselections, hsplit], mem_responseKeys.2 ⟨.field name alias? arguments earlier,
      hsplit ▸ List.mem_append_right _ List.mem_cons_self, ?_⟩⟩
    rw [hkey]
    rfl

/-- Calls that select a field, with text of a query in its arguments, and another occurrence of
it. -/
def searches : List Step := [
  .typename,
  .field "search" [⟨"text", .string ""⟩] none,
  .field "search" searchArguments (some .withTypename)]

theorem selections_searches : (empty.run searches).selections = [.field typenameField none [] none,
    .field "search" none [⟨"text", .string ""⟩] none,
    .field "search" (some "__alias_2") searchArguments (some .withTypename)] :=
  rfl

theorem argumentsNamed_searches : ∀ s ∈ (empty.run searches).selections, s.ArgumentsNamed := by
  rw [selections_searches]
  refine List.forall_mem_cons.2 ⟨fun _ h ↦ absurd h List.not_mem_nil, List.forall_mem_cons.2
    ⟨List.forall_mem_singleton.2 ⟨by decide, .string _⟩, List.forall_mem_singleton.2 ?_⟩⟩
  exact wellNamed_searchArguments

/-- The second occurrence is selected once more, and a new one with the first of its arguments
only. -/
theorem addField_reuses_iff_searches :
    (empty.run searches).Reachable ∧ (∀ s ∈ (empty.run searches).selections, s.ArgumentsNamed)
      ∧ "search" ≠ typenameField ∧ isAlias "search" = false
      ∧ (∀ a ∈ searchArguments, a.WellNamed) ∧ (∀ a ∈ searchArguments.take 1, a.WellNamed)
      ∧ (empty.run searches).Selects "search" searchArguments
      ∧ ((empty.run searches).addField "search" searchArguments none).1 ∈
        (empty.run searches).responseKeys
      ∧ ((empty.run searches).addField "search" searchArguments none).2.selections.length
        = (empty.run searches).selections.length
      ∧ ¬ (empty.run searches).Selects "search" (searchArguments.take 1)
      ∧ ∃ alias?, ((empty.run searches).addField "search" (searchArguments.take 1) none).1
          = alias?.getD "search"
        ∧ ((empty.run searches).addField "search" (searchArguments.take 1) none).1 ∉
          (empty.run searches).responseKeys
        ∧ ((empty.run searches).addField "search" (searchArguments.take 1) none).2.selections
          = (empty.run searches).selections
            ++ [.field "search" alias? (searchArguments.take 1) none] := by
  have hset : (empty.run searches).Reachable := Built.run .empty (List.forall_mem_cons.2 ⟨trivial,
    List.forall_mem_cons.2 ⟨Step.allowed_leaf trivial _, List.forall_mem_singleton.2
      (Step.allowed_above trivial _ .withTypename)⟩⟩)
  have hnamed : ∀ a ∈ searchArguments.take 1, a.WellNamed :=
    fun a ha ↦ wellNamed_searchArguments a (List.mem_of_mem_take ha)
  have hname : "search" ≠ typenameField := by decide
  have hagain := addField_reuses_iff hset argumentsNamed_searches hname (by decide)
    wellNamed_searchArguments none
  have hother := addField_reuses_iff hset argumentsNamed_searches hname (by decide) hnamed none
  have hselects : (empty.run searches).Selects "search" searchArguments := by
    refine ⟨some "__alias_2", some .withTypename, ?_⟩
    rw [selections_searches]
    exact List.mem_cons_of_mem _ (List.mem_cons_of_mem _ List.mem_cons_self)
  have hnew : ¬ (empty.run searches).Selects "search" (searchArguments.take 1) :=
    fun h ↦ absurd (hother.1.2 h).1 (by decide +kernel)
  obtain ⟨hlength, hkey⟩ := hagain.1.2 hselects
  exact ⟨hset, argumentsNamed_searches, hname, by decide, wellNamed_searchArguments, hnamed,
    hselects, hkey, hlength, hnew, hother.2.2 hnew⟩

end SelectionSet

end Query
end QueryBuilder
