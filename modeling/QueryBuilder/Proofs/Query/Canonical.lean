import QueryBuilder.Proofs.Query.Numbering

/-!
# The canonical form of plain sets

Adding a selection to a set has two cases.  If its entry is there, the selection that is there
takes in what is selected below the new one; else the new one goes to the end, with the number of
its position.  Which of the two it is depends on nothing but the entries, as long as the aliases
of the set are those of its positions.

## What is here

* `Selection.absorb`, `SelectionSet.changeAt`, `SelectionSet.push` — the two cases as functions.
* `SelectionSet.Numbered` — the selections of a set are numbered by position, and its resolver is
  the one that has seen them.  For such a set `mergeOne` is one of the two functions
  (`Numbered.mergeOne_of_mem`, `Numbered.mergeOne_of_not_mem`).
* `SelectionSet.Canonical` — a set is numbered, and so are the sets inside it.
* `SelectionSet.Plain.canonical` — every set that can be built without names like generated
  aliases is canonical.
-/

set_option autoImplicit false

namespace QueryBuilder
namespace Query

/-! ## Selections by their entries -/

namespace Selection

/-- The entry of a selection. -/
def entry (s : Selection) : Entry :=
  s.head.entry

/-- The selection with the alias it gets behind given entries. -/
def number (before : List Entry) : Selection → Selection
  | .field name _ arguments nested => .field name (aliasAt before name) arguments nested
  | .fragment typeCondition nested => .fragment typeCondition nested

/-- What is selected below a field or in a fragment. -/
def below? : Selection → Option SelectionSet
  | .field _ _ _ nested => nested
  | .fragment _ nested => some nested

/-- A selection after the same entry has been added again. -/
def absorb (t : Selection) : Selection → Selection
  | .field _ _ _ nested => t.mapNested (SelectionSet.mergeBelow · nested)
  | .fragment _ nested => t.mapFragment (SelectionSet.merge · nested)

@[simp]
theorem head_number (before : List Entry) (s : Selection) :
    (s.number before).head = s.head.number before := by
  cases s <;> rfl

@[simp]
theorem entry_number (before : List Entry) (s : Selection) :
    (s.number before).entry = s.entry := by
  rw [entry, head_number, Head.entry_number, entry]

@[simp]
theorem below?_number (before : List Entry) (s : Selection) :
    (s.number before).below? = s.below? := by
  cases s <;> rfl

@[simp]
theorem head_absorb (t s : Selection) : (t.absorb s).head = t.head := by
  cases s with
  | field => exact head_mapNested _ t
  | fragment => exact head_mapFragment _ t

@[simp]
theorem entry_absorb (t s : Selection) : (t.absorb s).entry = t.entry := by
  rw [entry, head_absorb, entry]

theorem entry_field_ne_fragment {name condition : String} {alias? : Option String}
    {arguments : List Argument} {nested : Option SelectionSet} {nested' : SelectionSet} :
    (field name alias? arguments nested).entry ≠ (fragment condition nested').entry := by
  rw [entry, entry, head, head, Head.entry, Head.entry, Entry.ofField]
  split_ifs <;> simp

theorem below?_absorb {t s : Selection} (h : t.entry = s.entry) :
    (t.absorb s).below? = SelectionSet.mergeBelow t.below? s.below? := by
  cases t with
  | field =>
    cases s with
    | field => rfl
    | fragment => exact absurd h entry_field_ne_fragment
  | fragment =>
    cases s with
    | field => exact absurd h.symm entry_field_ne_fragment
    | fragment =>
      rw [absorb, mapFragment, below?, below?, below?, SelectionSet.mergeBelow]

theorem isFragmentOn_iff {condition : String} {s : Selection} :
    s.isFragmentOn condition = true ↔ s.entry = .fragment condition := by
  cases s with
  | field name alias? arguments nested =>
    rw [isFragmentOn, entry, head, Head.entry, Entry.ofField]
    split_ifs <;> simp
  | fragment typeCondition nested =>
    rw [isFragmentOn, beq_iff_eq, entry, head, Head.entry, Entry.fragment.injEq]

end Selection

theorem map_ite_eq_self {α : Type} {p : α → Prop} [DecidablePred p] {change : α → α} {l : List α}
    (h : ∀ a ∈ l, ¬ p a) : (l.map fun a ↦ if p a then change a else a) = l :=
  (List.map_congr_left fun a ha ↦ if_neg (h a ha)).trans l.map_id

/-- If one entry of a list passes a test, and entries with other keys do not, then the change is
made to the entries with the key of that one. -/
theorem modifyFirst_eq_map {α β : Type} [DecidableEq β] {test : α → Bool} {change : α → α}
    {key : α → β} {l : List α} {a : α} (hnodup : (l.map key).Nodup) (ha : a ∈ l)
    (htest : ∀ b ∈ l, test b = true ↔ key b = key a) :
    modifyFirst test change l = some (l.map fun b ↦ if key b = key a then change b else b) := by
  induction l with
  | nil => exact absurd ha List.not_mem_nil
  | cons b rest ih =>
    rw [List.map_cons, List.nodup_cons] at hnodup
    rw [modifyFirst, List.map_cons]
    by_cases hb : key b = key a
    · have hrest : ∀ c ∈ rest, key c ≠ key a :=
        fun c hc hkey ↦ hnodup.1 (hb ▸ hkey ▸ List.mem_map_of_mem hc)
      rw [if_pos ((htest b List.mem_cons_self).2 hb), if_pos hb,
        map_ite_eq_self hrest]
    · have ha' : a ∈ rest := (List.mem_cons.1 ha).resolve_left fun h ↦ hb (h ▸ rfl)
      rw [if_neg (mt (htest b List.mem_cons_self).1 hb), if_neg hb,
        ih hnodup.2 ha' fun c hc ↦ htest c (List.mem_cons_of_mem b hc), Option.map_some]

namespace SelectionSet

/-! ## The two cases of adding a selection -/

/-- The entries of a set, in order. -/
def entries (set : SelectionSet) : List Entry :=
  set.selections.map Selection.entry

theorem map_entry_heads (set : SelectionSet) : set.heads.map Head.entry = set.entries :=
  List.map_map

/-- The set with a change made to the selection of an entry. -/
def changeAt (set : SelectionSet) (e : Entry) (change : Selection → Selection) : SelectionSet :=
  .mk (set.selections.map fun s ↦ if s.entry = e then change s else s) set.aliases

/-- The set with a selection added at the end. -/
def push (set : SelectionSet) (s : Selection) : SelectionSet :=
  .mk (set.selections ++ [s.number set.entries])
    (resolverOf (set.heads ++ [s.head.number set.entries]))

theorem heads_changeAt {set : SelectionSet} {e : Entry} {change : Selection → Selection}
    (hchange : ∀ s, (change s).head = s.head) : (set.changeAt e change).heads = set.heads := by
  rw [heads, changeAt, selections, List.map_map, heads]
  refine List.map_congr_left fun s _ ↦ ?_
  rw [Function.comp_apply]
  split_ifs
  · exact hchange s
  · rfl

theorem entries_changeAt {set : SelectionSet} {e : Entry} {change : Selection → Selection}
    (hchange : ∀ s, (change s).head = s.head) : (set.changeAt e change).entries = set.entries := by
  rw [← map_entry_heads, heads_changeAt hchange, map_entry_heads]

theorem heads_push (set : SelectionSet) (s : Selection) :
    (set.push s).heads = set.heads ++ [s.head.number set.entries] := by
  rw [heads, push, selections, List.map_append, List.map_singleton, Selection.head_number, heads]

theorem entries_push (set : SelectionSet) (s : Selection) :
    (set.push s).entries = set.entries ++ [s.entry] := by
  rw [entries, push, selections, List.map_append, List.map_singleton, Selection.entry_number,
    ← entries]

/-- What is below a field that occurs again was below it, or is added, or is merged of both. -/
theorem eq_some_of_mergeBelow {earlier? added? : Option SelectionSet} {below : SelectionSet}
    (h : mergeBelow earlier? added? = some below) :
    earlier? = some below ∨ added? = some below
      ∨ ∃ earlier added, earlier? = some earlier ∧ added? = some added
        ∧ below = earlier.merge added := by
  cases added? with
  | none => exact .inl h
  | some added =>
    cases earlier? with
    | none => exact .inr (.inl h)
    | some earlier => exact .inr (.inr ⟨earlier, added, rfl, rfl, (Option.some.inj h).symm⟩)

/-- The fields are numbered by their positions, and the resolver has seen exactly them. -/
structure Numbered (set : SelectionSet) : Prop where
  heads : NumberedHeads set.heads
  aliases : set.aliases = resolverOf set.heads

namespace Numbered

theorem empty : Numbered .empty := ⟨.nil, rfl⟩

variable {set : SelectionSet} (hset : set.Numbered)
include hset

theorem nodup : set.entries.Nodup :=
  map_entry_heads set ▸ hset.heads.nodup

/-- Other selections of a set have other entries. -/
theorem entry_ne_of_split {s : Selection} {front back : List Selection}
    (hsplit : set.selections = front ++ s :: back) :
    (∀ r ∈ front, r.entry ≠ s.entry) ∧ ∀ r ∈ back, r.entry ≠ s.entry := by
  have hnodup := hset.nodup
  rw [entries, hsplit, List.map_append, List.map_cons, List.nodup_append, List.nodup_cons]
    at hnodup
  obtain ⟨-, ⟨hback, -⟩, hfront⟩ := hnodup
  exact ⟨fun r hr ↦ hfront _ (List.mem_map_of_mem hr) _ List.mem_cons_self,
    fun r hr h ↦ hback (h ▸ List.mem_map_of_mem hr)⟩

/-- An occurrence that is there answers under its key. -/
theorem resolve_of_mem {t : Selection} (ht : t ∈ set.selections) {name : String}
    {arguments : List Argument} (hentry : t.entry = .occurrence name arguments) :
    ∃ key, t.responseKey? = some key ∧ set.resolve name arguments = (key, set.aliases) := by
  obtain ⟨key, hkey, hresolve⟩ := hset.heads.resolve_of_mem set.selections.length
    (List.mem_map_of_mem (f := Selection.head) ht) hentry
  rw [← hset.aliases] at hresolve
  rw [Selection.responseKey?_head] at hkey
  exact ⟨key, hkey, hresolve⟩

/-- An occurrence that is not there gets the key of its position. -/
theorem resolve_of_not_mem {name : String} {arguments : List Argument}
    (hnew : Entry.occurrence name arguments ∉ set.entries) :
    set.resolve name arguments = (keyAt set.entries name, resolverOf
      (set.heads ++ [.field name (aliasAt set.entries name) (renderArguments arguments)])) := by
  rw [← map_entry_heads] at hnew
  have hresolve := hset.heads.resolve_of_not_mem hnew
  rw [← hset.aliases, map_entry_heads] at hresolve
  rw [SelectionSet.heads, List.length_map] at hresolve
  exact hresolve

/-- The key of its position is not in use. -/
theorem keyAt_not_mem {name : String} {arguments : List Argument} (hname : isAlias name = false)
    (hnew : Entry.occurrence name arguments ∉ set.entries) :
    keyAt set.entries name ∉ set.responseKeys := by
  rw [← map_entry_heads] at hnew ⊢
  intro hmem
  obtain ⟨h, hh, hkey⟩ := List.mem_filterMap.1 hmem
  exact hset.heads.keyAt_ne hname hnew hh hkey

/-- In a set, a key stands for an entry. -/
theorem answersUnder_iff {t : Selection} (ht : t ∈ set.selections) {key : String}
    (hkey : t.responseKey? = some key) {b : Selection} (hb : b ∈ set.selections) :
    b.answersUnder key = true ↔ b.entry = t.entry := by
  rw [Selection.answersUnder_iff, ← Selection.responseKey?_head]
  rw [← Selection.responseKey?_head] at hkey
  exact hset.heads.responseKey?_eq_some_iff (List.mem_map_of_mem ht) (List.mem_map_of_mem hb) hkey

/-- An entry that is there takes in what is selected below the new selection. -/
theorem mergeOne_of_mem {s : Selection} (hs : s.entry ∈ set.entries) :
    set.mergeOne s = set.changeAt s.entry (·.absorb s) := by
  obtain ⟨t, ht, hentry⟩ := List.mem_map.1 hs
  cases s with
  | field name alias? arguments nested =>
    obtain ⟨key, hkey, hresolve⟩ := hset.resolve_of_mem ht hentry
    have hmodify : modifyFirst (·.answersUnder key) (·.mapNested (mergeBelow · nested))
        set.selections = some (set.selections.map fun b ↦
          if b.entry = t.entry then b.mapNested (mergeBelow · nested) else b) :=
      modifyFirst_eq_map hset.nodup ht fun b hb ↦ hset.answersUnder_iff ht hkey hb
    rw [mergeOne, place_of_some (by rw [hresolve]; exact hmodify), hresolve, hentry]
    rfl
  | fragment condition nested =>
    have hmodify : modifyFirst (·.isFragmentOn condition) (·.mapFragment (merge · nested))
        set.selections = some (set.selections.map fun b ↦
          if b.entry = t.entry then b.mapFragment (merge · nested) else b) := by
      refine modifyFirst_eq_map hset.nodup ht fun b _ ↦ ?_
      rw [Selection.isFragmentOn_iff, hentry]
      rfl
    rw [mergeOne, placeFragment]
    simp only [hmodify]
    rw [hentry]
    rfl

/-- An entry that is not there goes to the end. -/
theorem mergeOne_of_not_mem {s : Selection} (hplain : s.head.Plain)
    (hs : s.entry ∉ set.entries) : set.mergeOne s = set.push s := by
  cases s with
  | field name alias? arguments nested =>
    have hresolve := hset.resolve_of_not_mem hs
    have hkey : (set.resolve name arguments).1 ∉ set.responseKeys := by
      rw [hresolve]
      exact hset.keyAt_not_mem hplain hs
    rw [mergeOne, place_of_none (modifyFirst_answersUnder_eq_none_iff.2 hkey), hresolve,
      ite_keyAt _ hplain]
    rfl
  | fragment condition nested =>
    have hmodify : modifyFirst (·.isFragmentOn condition) (·.mapFragment (merge · nested))
        set.selections = none := by
      rw [modifyFirst_eq_none_iff]
      intro t ht
      rw [Bool.eq_false_iff, ne_eq, Selection.isFragmentOn_iff]
      exact fun h ↦ hs (List.mem_map.2 ⟨t, ht, h⟩)
    rw [mergeOne, placeFragment]
    simp only [hmodify]
    rw [push, resolverOf_concat, ← hset.aliases, Selection.head, Head.number, Head.occurrence?,
      Option.toList_none, List.append_nil]
    rfl

/-- Changes below the selections leave their numbers as they are. -/
theorem changeAt (e : Entry) {change : Selection → Selection}
    (hchange : ∀ s, (change s).head = s.head) : (set.changeAt e change).Numbered where
  heads := by
    rw [heads_changeAt hchange]
    exact hset.heads
  aliases := by
    rw [heads_changeAt hchange, ← hset.aliases]
    rfl

theorem push {s : Selection} (hplain : s.head.Plain) (hs : s.entry ∉ set.entries) :
    (set.push s).Numbered where
  heads := by
    rw [heads_push, ← map_entry_heads]
    refine .snoc hset.heads hplain ?_
    rw [map_entry_heads]
    exact hs
  aliases := by
    rw [heads_push]
    rfl

theorem mergeOne {s : Selection} (hplain : s.head.Plain) : (set.mergeOne s).Numbered := by
  by_cases hs : s.entry ∈ set.entries
  · rw [hset.mergeOne_of_mem hs]
    exact hset.changeAt _ fun t ↦ Selection.head_absorb t s
  · rw [hset.mergeOne_of_not_mem hplain hs]
    exact hset.push hplain hs

/-- The heads stay, and the head of a new entry comes last. -/
theorem heads_mergeOne {s : Selection} (hplain : s.head.Plain) : (set.mergeOne s).heads
    = if s.entry ∈ set.entries then set.heads
      else set.heads ++ [s.head.number set.entries] := by
  split_ifs with hs
  · rw [hset.mergeOne_of_mem hs, heads_changeAt fun t ↦ Selection.head_absorb t s]
  · rw [hset.mergeOne_of_not_mem hplain hs, heads_push]

theorem entries_mergeOne {s : Selection} (hplain : s.head.Plain) : (set.mergeOne s).entries
    = if s.entry ∈ set.entries then set.entries else set.entries ++ [s.entry] := by
  rw [← map_entry_heads, hset.heads_mergeOne hplain]
  split_ifs
  · exact map_entry_heads set
  · rw [List.map_append, List.map_singleton, Head.entry_number, map_entry_heads, Selection.entry]

theorem mem_entries_mergeOne {s : Selection} (hplain : s.head.Plain) :
    s.entry ∈ (set.mergeOne s).entries := by
  rw [hset.entries_mergeOne hplain]
  split_ifs with hs
  · exact hs
  · exact List.mem_append_right _ (List.mem_singleton_self _)

theorem mem_entries_mergeOne_of_mem {s : Selection} (hplain : s.head.Plain) {e : Entry}
    (he : e ∈ set.entries) : e ∈ (set.mergeOne s).entries := by
  rw [hset.entries_mergeOne hplain]
  split_ifs
  · exact he
  · exact List.mem_append_left _ he

theorem foldl_mergeOne {l : List Selection} (hl : ∀ s ∈ l, s.head.Plain) :
    (l.foldl SelectionSet.mergeOne set).Numbered :=
  List.foldlRecOn l SelectionSet.mergeOne hset fun _ h s hs ↦ h.mergeOne (hl s hs)

end Numbered

/-! ## Canonical sets -/

/-- The set is numbered, and so are the sets inside it. -/
inductive Canonical : SelectionSet → Prop
  | mk {set : SelectionSet} (hset : set.Numbered)
      (hbelow : ∀ s ∈ set.selections, ∀ below ∈ s.below?, Canonical below) : Canonical set

namespace Canonical

theorem empty : Canonical .empty :=
  .mk .empty fun _ h ↦ absurd h List.not_mem_nil

theorem numbered {set : SelectionSet} (hset : set.Canonical) : set.Numbered := by
  cases hset with
  | mk hset _ => exact hset

theorem of_below? {set : SelectionSet} (hset : set.Canonical) {s : Selection}
    (hs : s ∈ set.selections) {below : SelectionSet} (hbelow : s.below? = some below) :
    below.Canonical := by
  cases hset with
  | mk _ h => exact h s hs below hbelow

theorem plain {set : SelectionSet} (hset : set.Canonical) {s : Selection}
    (hs : s ∈ set.selections) : s.head.Plain :=
  hset.numbered.heads.plain (List.mem_map_of_mem hs)

/-- Adding a selection keeps a set canonical, if merging what is selected below it does. -/
theorem mergeOne {set : SelectionSet} (hset : set.Canonical) {s : Selection}
    (hplain : s.head.Plain) (hs : ∀ below ∈ s.below?, below.Canonical
      ∧ ∀ earlier : SelectionSet, earlier.Canonical → (earlier.merge below).Canonical) :
    (set.mergeOne s).Canonical := by
  refine .mk (hset.numbered.mergeOne hplain) ?_
  by_cases hmem : s.entry ∈ set.entries
  · rw [hset.numbered.mergeOne_of_mem hmem]
    intro t' ht' below hbelow
    obtain ⟨t, ht, rfl⟩ := List.mem_map.1 ht'
    split_ifs at hbelow with hentry
    · rw [Selection.below?_absorb hentry] at hbelow
      obtain hbelow | hbelow | ⟨earlier, added, hearlier, hadded, rfl⟩ :=
        eq_some_of_mergeBelow hbelow
      · exact hset.of_below? ht hbelow
      · exact (hs below hbelow).1
      · exact (hs added hadded).2 earlier (hset.of_below? ht hearlier)
    · exact hset.of_below? ht hbelow
  · rw [hset.numbered.mergeOne_of_not_mem hplain hmem]
    intro t ht below hbelow
    rcases List.mem_append.1 ht with ht | ht
    · exact hset.of_below? ht hbelow
    · rw [List.mem_singleton.1 ht, Selection.below?_number] at hbelow
      exact (hs below hbelow).1

theorem foldl_mergeOne {set : SelectionSet} (hset : set.Canonical) {l : List Selection}
    (hl : ∀ s ∈ l, s.head.Plain ∧ ∀ below ∈ s.below?, below.Canonical
      ∧ ∀ earlier : SelectionSet, earlier.Canonical → (earlier.merge below).Canonical) :
    (l.foldl SelectionSet.mergeOne set).Canonical :=
  List.foldlRecOn l SelectionSet.mergeOne hset fun _ h s hs ↦ h.mergeOne (hl s hs).1 (hl s hs).2

/-- **Merging keeps sets canonical.** -/
theorem merge {set added : SelectionSet} (hset : set.Canonical) (hadded : added.Canonical) :
    (set.merge added).Canonical := by
  induction hadded generalizing set with
  | mk hnumbered hbelow ih =>
    rw [merge_eq_foldl]
    exact hset.foldl_mergeOne fun s hs ↦ ⟨hnumbered.heads.plain (List.mem_map_of_mem hs),
      fun below h ↦ ⟨hbelow s hs below h, fun _ hearlier ↦ ih s hs below h hearlier⟩⟩

/-- Adding a selection keeps sets canonical. -/
theorem mergeOne_of_below {set : SelectionSet} (hset : set.Canonical) {s : Selection}
    (hplain : s.head.Plain) (hs : ∀ below ∈ s.below?, below.Canonical) :
    (set.mergeOne s).Canonical :=
  hset.mergeOne hplain fun below h ↦ ⟨hs below h, fun _ hearlier ↦ hearlier.merge (hs below h)⟩

/-- Adding some of the selections of a canonical set keeps a set canonical. -/
theorem foldl_mergeOne_of_subset {set added : SelectionSet} (hset : set.Canonical)
    (hadded : added.Canonical) {l : List Selection} (hl : l ⊆ added.selections) :
    (l.foldl SelectionSet.mergeOne set).Canonical :=
  hset.foldl_mergeOne fun _ hs ↦ ⟨hadded.plain (hl hs), fun _ h ↦
    ⟨hadded.of_below? (hl hs) h, fun _ hearlier ↦ hearlier.merge (hadded.of_below? (hl hs) h)⟩⟩

end Canonical

/-- **Every set built without names like generated aliases is canonical.** -/
theorem Plain.canonical {set : SelectionSet} (hset : set.Plain) : set.Canonical := by
  induction hset with
  | empty => exact .empty
  | field _ hname _ ih ihnested => exact ih.mergeOne_of_below hname ihnested
  | typename _ ih => exact ih.mergeOne_of_below isAlias_typenameField fun _ h ↦ nomatch h
  | fragment _ _ ih ihnested =>
    refine ih.mergeOne_of_below trivial fun below h ↦ ?_
    obtain rfl := Option.some.inj h
    exact ihnested
  | merge _ _ ih ihother => exact ih.merge ihother

end SelectionSet

end Query
end QueryBuilder
