import QueryBuilder.Proofs.Query.Merge
import QueryBuilder.Proofs.Query.Unambiguous

/-!
# Aliases are positions

In a set that was built without names like generated aliases, an alias says where its field stands
and nothing else.  Whatever calls, merges and nested sets a set comes from, its aliases can be
recomputed from the names of its fields.

## What is here

* `SelectionSet.Tidy` — no two selections of a set stand for the same thing, and a field is aliased
  by its position exactly if its name has occurred before.
* `SelectionSet.Numbered.tidy` — the sets whose fields are numbered by their positions are tidy.
* `Tree.unaliased` — a tree without its aliases.
* `SelectionSet.Canonical.eq_of_unaliased_eq` — a canonical set is determined by its trees without
  aliases, the resolvers inside it included.
* `SelectionSet.aliases_follow_positions` — both, for all sets that can be built.
-/

set_option autoImplicit false

namespace QueryBuilder
namespace Query

namespace Selection

/-- The name of a field. -/
def name? : Selection → Option String
  | .field name _ _ _ => some name
  | .fragment _ _ => none

/-- The alias of a field, if it has one. -/
def alias? : Selection → Option String
  | .field _ alias? _ _ => alias?
  | .fragment _ _ => none

/-- The name of a field and the text of its arguments. -/
def occurrence? : Selection → Option (String × String)
  | .field name _ arguments _ => some (name, renderArguments arguments)
  | .fragment _ _ => none

/-- The type that a fragment is on. -/
def condition? : Selection → Option String
  | .field _ _ _ _ => none
  | .fragment typeCondition _ => some typeCondition

theorem entry_eq_typename_iff {s : Selection} :
    s.entry = .typename ↔ s.name? = some typenameField := by
  cases s with
  | field name alias? arguments nested =>
    simp only [entry, head, Head.entry, Entry.ofField, name?, Option.some.injEq]
    split_ifs with h <;> simp [h]
  | fragment typeCondition nested => simp [entry, head, Head.entry, name?]

theorem entry_eq_of_occurrence? {s t : Selection} {o : String × String}
    (hs : s.occurrence? = some o) (ht : t.occurrence? = some o) : s.entry = t.entry := by
  cases s with
  | fragment => cases hs
  | field name alias? arguments nested =>
    cases t with
    | fragment => cases ht
    | field name' alias'? arguments' nested' =>
      obtain ⟨hname, hsignature⟩ := Prod.mk.inj (Option.some.inj (hs.trans ht.symm))
      rw [entry, head, Head.entry, entry, head, Head.entry, hname, hsignature]

theorem entry_eq_of_condition? {s t : Selection} {typeCondition : String}
    (hs : s.condition? = some typeCondition) (ht : t.condition? = some typeCondition) :
    s.entry = t.entry := by
  cases s with
  | field => cases hs
  | fragment typeCondition' nested =>
    cases t with
    | field => cases ht
    | fragment typeCondition'' nested' =>
      exact congrArg Entry.fragment (Option.some.inj (hs.trans ht.symm))

end Selection

namespace SelectionSet

/-! ## Tidy sets -/

/-- The selections of a set stand for different things, and its aliases are positions. -/
structure Tidy (set : SelectionSet) : Prop where
  /-- No two fields answer under one key. -/
  keys : (set.selections.filterMap Selection.responseKey?).Nodup
  /-- No two fields have the same name and the same text of arguments. -/
  occurrences : (set.selections.filterMap Selection.occurrence?).Nodup
  /-- No two fragments are on one type. -/
  conditions : (set.selections.filterMap Selection.condition?).Nodup
  /-- There is at most one `__typename`. -/
  typename : (set.selections.filter (·.name? = some typenameField)).length ≤ 1
  /-- It has no alias. -/
  typename_bare : ∀ alias? arguments nested,
    .field typenameField alias? arguments nested ∈ set.selections → alias? = none
  /-- A field has no alias if it is the first of its name, and else that of its position. -/
  aliases : ∀ i name alias? arguments nested,
    set.selections[i]? = some (.field name alias? arguments nested) →
      alias? = if some name ∈ (set.selections.take i).map Selection.name? then some (aliasKey i)
        else none

namespace Numbered

variable {set : SelectionSet} (hset : set.Numbered)
include hset

/-- What tells entries apart does not repeat. -/
theorem nodup_filterMap {β : Type} {f : Selection → Option β}
    (hf : ∀ s ∈ set.selections, ∀ t ∈ set.selections, ∀ b, f s = some b → f t = some b →
      s.entry = t.entry) : (set.selections.filterMap f).Nodup := by
  have hentries : set.selections.Pairwise fun s t ↦ s.entry ≠ t.entry :=
    List.pairwise_map.1 hset.nodup
  rw [List.Nodup, List.pairwise_filterMap]
  refine hentries.imp_of_mem fun hs ht hne b hb b' hb' heq ↦ ?_
  subst heq
  exact hne (hf _ hs _ ht b hb hb')

theorem length_filter_typename_le :
    (set.selections.filter (·.name? = some typenameField)).length ≤ 1 := by
  have hsublist : ((set.selections.filter (·.name? = some typenameField)).map
      Selection.entry).Sublist set.entries := List.filter_sublist.map _
  have hsame : (set.selections.filter (·.name? = some typenameField)).map Selection.entry
      = List.replicate (set.selections.filter (·.name? = some typenameField)).length
        .typename := by
    rw [List.map_eq_replicate_iff]
    intro s hs
    exact Selection.entry_eq_typename_iff.2 (by simpa using (List.mem_filter.1 hs).2)
  have hnodup := hset.nodup.sublist hsublist
  rw [hsame] at hnodup
  exact List.nodup_replicate.1 hnodup

/-- The name of a field has occurred before it exactly if an entry before it names the field. -/
theorem exists_names_iff_mem_map_name? {front back : List Selection} {name : String}
    {alias? : Option String} {arguments : List Argument} {nested : Option SelectionSet}
    (hsplit : set.selections = front ++ .field name alias? arguments nested :: back) :
    (∃ e ∈ (front.map Selection.head).map Head.entry, e.names name = true) ↔
      some name ∈ front.map Selection.name? := by
  rw [exists_names_iff, List.mem_map]
  constructor
  · rintro ⟨-, alias'?, signature, hmem⟩
    obtain ⟨s, hs, hhead⟩ := List.mem_map.1 hmem
    cases s with
    | field name' alias'' arguments' nested' =>
      exact ⟨_, hs, congrArg some (Head.field.inj hhead).1⟩
    | fragment => cases hhead
  · rintro ⟨s, hs, hname⟩
    cases s with
    | fragment => cases hname
    | field name' alias'? arguments' nested' =>
      obtain rfl := Option.some.inj hname
      refine ⟨?_, alias'?, renderArguments arguments', List.mem_map_of_mem hs⟩
      -- A second `__typename` would be the same entry again.
      rintro rfl
      refine (hset.entry_ne_of_split hsplit).1 _ hs ?_
      rw [Selection.entry_eq_typename_iff.2 rfl, Selection.entry_eq_typename_iff.2 rfl]

theorem alias_eq {i : Nat} {name : String} {alias? : Option String} {arguments : List Argument}
    {nested : Option SelectionSet}
    (h : set.selections[i]? = some (.field name alias? arguments nested)) :
    alias? = if some name ∈ (set.selections.take i).map Selection.name? then some (aliasKey i)
      else none := by
  obtain ⟨hi, hget⟩ := List.getElem?_eq_some_iff.1 h
  have hsplit : set.selections = set.selections.take i
      ++ .field name alias? arguments nested :: set.selections.drop (i + 1) := by
    rw [← hget, List.cons_getElem_drop_succ, List.take_append_drop]
  have hheads := hset.heads
  rw [SelectionSet.heads, hsplit, List.map_append, List.map_cons] at hheads
  have hnumber := hheads.number_eq_self
  rw [Selection.head, Head.number, Head.field.injEq] at hnumber
  rw [← hnumber.2.1, aliasAt]
  have hlength : (((set.selections.take i).map Selection.head).map Head.entry).length = i := by
    rw [List.length_map, List.length_map, List.length_take, Nat.min_eq_left (Nat.le_of_lt hi)]
  rw [hlength]
  exact if_congr (hset.exists_names_iff_mem_map_name? hsplit) rfl rfl

theorem alias?_eq {i : Nat} {s : Selection} (h : set.selections[i]? = some s) :
    s.alias? = if s.name?.isSome ∧ s.name? ∈ (set.selections.take i).map Selection.name? then
      some (aliasKey i) else none := by
  cases s with
  | field name alias? arguments nested =>
    show alias? = _
    rw [hset.alias_eq h]
    simp only [Selection.name?, Option.isSome_some, true_and]
  | fragment typeCondition nested => simp [Selection.name?, Selection.alias?]

/-- **A numbered set is tidy.** -/
theorem tidy : set.Tidy where
  keys := hset.nodup_filterMap fun s hs t ht key hkey hkey' ↦ by
    rw [← Selection.responseKey?_head] at hkey hkey'
    exact congrArg Head.entry (hset.heads.eq_of_responseKey? (List.mem_map_of_mem hs)
      (List.mem_map_of_mem ht) hkey hkey')
  occurrences := hset.nodup_filterMap fun _ _ _ _ _ ↦ Selection.entry_eq_of_occurrence?
  conditions := hset.nodup_filterMap fun _ _ _ _ _ ↦ Selection.entry_eq_of_condition?
  typename := hset.length_filter_typename_le
  typename_bare alias? arguments nested hmem := by
    have hhead := List.mem_map_of_mem (f := Selection.head) hmem
    obtain ⟨-, hbare | ⟨hne, -⟩⟩ := hset.heads.shape hhead
    · exact hbare
    · exact absurd rfl hne
  aliases _ _ _ _ _ := hset.alias_eq

end Numbered

theorem Canonical.hereditary_tidy {set : SelectionSet} (hset : set.Canonical) :
    set.Hereditary Tidy := by
  induction hset with
  | mk hset _ ih => exact .mk hset.tidy ih

end SelectionSet

/-! ## Trees without aliases -/

namespace Tree

mutual

/-- A selection and everything below it, without aliases. -/
def unaliased : Tree → Tree
  | .field name _ arguments below? => .field name none arguments (unaliasedBelow below?)
  | .fragment typeCondition below => .fragment typeCondition (unaliasedAll below)

/-- A list of trees without aliases. -/
def unaliasedAll : List Tree → List Tree
  | [] => []
  | tree :: rest => unaliased tree :: unaliasedAll rest

/-- What is selected below a field, without aliases. -/
def unaliasedBelow : Option (List Tree) → Option (List Tree)
  | none => none
  | some below => some (unaliasedAll below)

end

/-- The name of a field. -/
def name? : Tree → Option String
  | .field name _ _ _ => some name
  | .fragment _ _ => none

theorem unaliasedAll_eq_map (trees : List Tree) : unaliasedAll trees = trees.map unaliased := by
  induction trees with
  | nil => rfl
  | cons tree rest ih => rw [unaliasedAll, ih, List.map_cons]

end Tree

namespace SelectionSet

theorem trees_eq_map (set : SelectionSet) : set.trees = set.selections.map treeOne := by
  obtain ⟨selections, aliases⟩ := set
  rw [trees, SelectionSet.selections]
  induction selections with
  | nil => rfl
  | cons s rest ih => rw [treesAll, ih, List.map_cons]

theorem name?_unaliased_treeOne (s : Selection) : (treeOne s).unaliased.name? = s.name? := by
  cases s <;> rfl

/-- Selections with the same tree without aliases are equal, if they have the same alias and equal
sets below them. -/
theorem eq_of_unaliased_treeOne_eq {s s' : Selection}
    (htree : (treeOne s).unaliased = (treeOne s').unaliased) (halias : s.alias? = s'.alias?)
    (hbelow : ∀ below ∈ s.below?, ∀ below' ∈ s'.below?,
      below.trees.map Tree.unaliased = below'.trees.map Tree.unaliased → below = below') :
    s = s' := by
  cases s with
  | field name alias? arguments nested =>
    cases s' with
    | fragment => cases htree
    | field name' alias'? arguments' nested' =>
      obtain ⟨hname, -, harguments, hnested⟩ := Tree.field.inj htree
      have halias : alias? = alias'? := halias
      have hnested : nested = nested' := by
        cases nested with
        | none =>
          cases nested' with
          | none => rfl
          | some below' => cases hnested
        | some below =>
          cases nested' with
          | none => cases hnested
          | some below' =>
            refine congrArg some (hbelow below rfl below' rfl ?_)
            rw [← Tree.unaliasedAll_eq_map, ← Tree.unaliasedAll_eq_map]
            exact Option.some.inj hnested
      rw [hname, halias, harguments, hnested]
  | fragment typeCondition below =>
    cases s' with
    | field => cases htree
    | fragment typeCondition' below' =>
      obtain ⟨hcondition, htrees⟩ := Tree.fragment.inj htree
      rw [Tree.unaliasedAll_eq_map, Tree.unaliasedAll_eq_map] at htrees
      rw [hcondition, hbelow below rfl below' rfl htrees]

/-- **A canonical set is determined by its trees without aliases.** -/
theorem Canonical.eq_of_unaliased_eq {set set' : SelectionSet} (hset : set.Canonical)
    (hset' : set'.Canonical)
    (h : set.trees.map Tree.unaliased = set'.trees.map Tree.unaliased) : set = set' := by
  induction hset generalizing set' with
  | @mk set hnumbered _ ih =>
    have hnumbered' := hset'.numbered
    rw [trees_eq_map, trees_eq_map, List.map_map, List.map_map] at h
    have hnames : set.selections.map Selection.name? = set'.selections.map Selection.name? := by
      have hmapped := congrArg (List.map Tree.name?) h
      rw [List.map_map, List.map_map] at hmapped
      simpa only [Function.comp_def, name?_unaliased_treeOne] using hmapped
    have hselections : set.selections = set'.selections := by
      refine List.ext_getElem? fun i ↦ ?_
      have htrees := congrArg (·[i]?) h
      simp only [List.getElem?_map] at htrees
      cases hs : set.selections[i]? with
      | none =>
        cases hs' : set'.selections[i]? with
        | none => rfl
        | some s' => simp [hs, hs'] at htrees
      | some s =>
        cases hs' : set'.selections[i]? with
        | none => simp [hs, hs'] at htrees
        | some s' =>
          rw [hs, hs', Option.map_some, Option.map_some, Option.some.injEq] at htrees
          refine congrArg some (eq_of_unaliased_treeOne_eq htrees ?_ ?_)
          · -- The names in front are the same in both sets, and with them the alias.
            have hname : s.name? = s'.name? := by
              have hname := congrArg Tree.name? htrees
              rwa [Function.comp_apply, Function.comp_apply, name?_unaliased_treeOne,
                name?_unaliased_treeOne] at hname
            rw [hnumbered.alias?_eq hs, hnumbered'.alias?_eq hs', hname, List.map_take,
              List.map_take, hnames]
          · intro below hbelow below' hbelow' htrees
            exact ih s (List.mem_of_getElem? hs) below hbelow
              (hset'.of_below? (List.mem_of_getElem? hs') hbelow') htrees
    have haliases : set.aliases = set'.aliases := by
      rw [hnumbered.aliases, hnumbered'.aliases, SelectionSet.heads, hselections,
        SelectionSet.heads]
    cases set
    cases set'
    exact congrArg₂ SelectionSet.mk hselections haliases

/-- **Aliases are positions.**  In every set that can be built without names like generated aliases,
and in every set inside it, the selections stand for different things, and a field is aliased by its
position exactly if its name has occurred before.  So aliases say nothing that the selections do not
say without them: two such sets that differ in aliases at most are equal. -/
theorem aliases_follow_positions :
    (∀ set : SelectionSet, set.Plain → set.Hereditary Tidy)
      ∧ ∀ set set' : SelectionSet, set.Plain → set'.Plain →
        set.trees.map Tree.unaliased = set'.trees.map Tree.unaliased → set = set' :=
  ⟨fun _ hset ↦ hset.canonical.hereditary_tidy,
    fun _ _ hset hset' ↦ hset.canonical.eq_of_unaliased_eq hset'.canonical⟩

/-- Calls that select three lists of posts of a user, the identifier between them. -/
def postLists : List Step := [
  .typename,
  .field "posts" [⟨"first", .int 1⟩] (some (empty.run firstPosts)),
  .field "id" [] none,
  .field "posts" [⟨"first", .int 2⟩] none,
  .fragment "User" (empty.run firstPost),
  .field "posts" [] none]

theorem plain_postLists : ∀ step ∈ postLists, step.Plain := by
  have hposts : (empty.run firstPosts).Plain := Built.run .empty plain_firstPosts
  have hpost : (empty.run firstPost).Plain := Built.run .empty plain_firstPost
  refine List.forall_mem_cons.2 ⟨trivial, List.forall_mem_cons.2
    ⟨Step.allowed_above (by decide) _ hposts, List.forall_mem_cons.2
      ⟨Step.allowed_leaf (by decide) [], List.forall_mem_cons.2
        ⟨Step.allowed_leaf (by decide) _, List.forall_mem_cons.2
          ⟨hpost, List.forall_mem_singleton.2 (Step.allowed_leaf (by decide) [])⟩⟩⟩⟩⟩

/-- Of three occurrences of one field, those at the positions 3 and 5 have aliases.  Merging the set
into the empty one numbers them anew, and gives the same set. -/
theorem aliases_follow_positions_postLists :
    (empty.run postLists).Plain ∧ (empty.merge (empty.run postLists)).Plain
      ∧ (empty.run postLists).render = "\x7b __typename "
        ++ "posts(first: 1) \x7b __typename user \x7b id posts(first: 2) \x7d \x7d id "
        ++ "__alias_3: posts(first: 2) ... on User \x7b user \x7b posts(first: 1) \x7d \x7d "
        ++ "__alias_5: posts \x7d"
      ∧ (empty.run postLists).Hereditary Tidy
      ∧ (empty.run postLists).trees.map Tree.unaliased
        = (empty.merge (empty.run postLists)).trees.map Tree.unaliased
      ∧ empty.run postLists = empty.merge (empty.run postLists) := by
  have hset : (empty.run postLists).Plain := Built.run .empty plain_postLists
  have hmerged : (empty.merge (empty.run postLists)).Plain := .merge .empty hset
  have htrees : (empty.run postLists).trees.map Tree.unaliased
      = (empty.merge (empty.run postLists)).trees.map Tree.unaliased := rfl
  exact ⟨hset, hmerged, by decide +kernel, aliases_follow_positions.1 _ hset, htrees,
    aliases_follow_positions.2 _ _ hset hmerged htrees⟩

end SelectionSet

end Query
end QueryBuilder
