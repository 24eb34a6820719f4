import Mathlib.Data.List.Induction
import QueryBuilder.Proofs.Query.Head

/-!
# How the fields of a set are numbered

When no field is named like a generated alias, the aliases of a set can be read off its
selections: a field that is not the first of its name is numbered by its position.

## What is here

* `Entry` — what tells the selections of one set apart: the name and the signature of a field, or
  the type of a fragment.  `__typename` is one entry, with whatever arguments.
* `aliasAt`, `Head.number` — the alias of a field behind given entries.
* `NumberedHeads` — the lists of heads that grow by numbering new entries.  Entries do not repeat
  (`NumberedHeads.nodup`) and no key is used twice (`NumberedHeads.eq_of_responseKey?`).
* `resolverOf` — the resolver that has seen exactly the given heads.  It finds the key of an entry
  that is there (`NumberedHeads.resolve_of_mem`) and numbers one that is not
  (`NumberedHeads.resolve_of_not_mem`).
-/

set_option autoImplicit false

namespace QueryBuilder
namespace Query

/-! ## Entries -/

/-- What a selection selects, apart from what is selected below it. -/
inductive Entry where
  | typename
  | field (name signature : String)
  | fragment (typeCondition : String)
  deriving DecidableEq

namespace Entry

/-- The entry of a field. -/
def ofField (name signature : String) : Entry :=
  if name = typenameField then .typename else .field name signature

/-- The entry of an occurrence of a field. -/
def occurrence (name : String) (arguments : List Argument) : Entry :=
  .ofField name (renderArguments arguments)

/-- Whether an entry is a field of a certain name. -/
def names (name : String) : Entry → Bool
  | .field other _ => other == name
  | _ => false

theorem names_ofField {name name' signature : String} :
    (ofField name' signature).names name = true ↔ name' ≠ typenameField ∧ name' = name := by
  rw [ofField]
  split_ifs with h
  · simp [names, h]
  · simp [names, h]

theorem ofField_eq_iff {name name' signature signature' : String} :
    ofField name' signature' = ofField name signature ↔
      name' = name ∧ (name = typenameField ∨ signature' = signature) := by
  rw [ofField, ofField]
  split_ifs with h' h h
  · simp [h, h']
  · simp [h', Ne.symm h]
  · simp [h, h']
  · simp [h]

end Entry

/-- The alias that a new field gets behind given entries: its position, if one of them has its
name. -/
def aliasAt (before : List Entry) (name : String) : Option String :=
  if ∃ e ∈ before, e.names name = true then some (aliasKey before.length) else none

/-- The key that a new field answers under behind given entries. -/
def keyAt (before : List Entry) (name : String) : String :=
  (aliasAt before name).getD name

theorem keyAt_of_names {before : List Entry} {name : String}
    (h : ∃ e ∈ before, e.names name = true) : keyAt before name = aliasKey before.length := by
  rw [keyAt, aliasAt, if_pos h, Option.getD_some]

theorem keyAt_of_not_names {before : List Entry} {name : String}
    (h : ¬ ∃ e ∈ before, e.names name = true) : keyAt before name = name := by
  rw [keyAt, aliasAt, if_neg h, Option.getD_none]

/-- A key that differs from the name is an alias. -/
theorem ite_keyAt (before : List Entry) {name : String} (hplain : isAlias name = false) :
    (if keyAt before name = name then none else some (keyAt before name))
      = aliasAt before name := by
  by_cases hnames : ∃ e ∈ before, e.names name = true
  · rw [keyAt_of_names hnames, if_neg (aliasKey_ne hplain), aliasAt, if_pos hnames]
  · rw [keyAt_of_not_names hnames, if_pos rfl, aliasAt, if_neg hnames]

namespace Head

/-- The entry of a head. -/
def entry : Head → Entry
  | .field name _ signature => .ofField name signature
  | .fragment typeCondition => .fragment typeCondition

/-- The head with the alias it gets behind given entries. -/
def number (before : List Entry) : Head → Head
  | .field name _ signature => .field name (aliasAt before name) signature
  | .fragment typeCondition => .fragment typeCondition

/-- The head is not that of a field named like a generated alias. -/
def Plain : Head → Prop
  | .field name _ _ => isAlias name = false
  | .fragment _ => True

/-- What a resolver remembers of a head. -/
def occurrence? : Head → Option Occurrence
  | .field name alias? signature =>
    if name = typenameField then none else some ⟨name, signature, alias?.getD name⟩
  | .fragment _ => none

@[simp]
theorem entry_number (before : List Entry) (h : Head) : (h.number before).entry = h.entry := by
  cases h <;> rfl

theorem names_entry_iff {name : String} {h : Head} : h.entry.names name = true ↔
    name ≠ typenameField ∧ ∃ alias? signature, h = .field name alias? signature := by
  cases h with
  | field name' alias? signature =>
    rw [entry, Entry.names_ofField]
    constructor
    · rintro ⟨hname, rfl⟩
      exact ⟨hname, alias?, signature, rfl⟩
    · rintro ⟨hname, _, _, heq⟩
      obtain ⟨rfl, -, -⟩ := Head.field.inj heq
      exact ⟨hname, rfl⟩
  | fragment typeCondition => simp [entry, Entry.names]

theorem occurrence?_eq_some_iff {h : Head} {o : Occurrence} : h.occurrence? = some o ↔
    o.field ≠ typenameField
      ∧ ∃ alias?, h = .field o.field alias? o.signature ∧ o.key = alias?.getD o.field := by
  cases h with
  | field name alias? signature =>
    rw [occurrence?]
    split_ifs with hname
    · refine ⟨fun h ↦ absurd h nofun, ?_⟩
      rintro ⟨hne, _, heq, -⟩
      exact absurd ((Head.field.inj heq).1.symm.trans hname) hne
    · constructor
      · intro h
        obtain rfl := Option.some.inj h
        exact ⟨hname, alias?, rfl, rfl⟩
      · rintro ⟨-, _, heq, hkey⟩
        obtain ⟨rfl, rfl, rfl⟩ := Head.field.inj heq
        rw [← hkey]
  | fragment typeCondition => simp [occurrence?]

end Head

theorem exists_names_iff {hs : List Head} {name : String} :
    (∃ e ∈ hs.map Head.entry, e.names name = true) ↔
      name ≠ typenameField ∧ ∃ alias? signature, Head.field name alias? signature ∈ hs := by
  constructor
  · rintro ⟨e, he, hnames⟩
    obtain ⟨h, hh, rfl⟩ := List.mem_map.1 he
    obtain ⟨hname, alias?, signature, rfl⟩ := Head.names_entry_iff.1 hnames
    exact ⟨hname, alias?, signature, hh⟩
  · rintro ⟨hname, alias?, signature, hmem⟩
    exact ⟨_, List.mem_map_of_mem hmem, Head.names_entry_iff.2 ⟨hname, alias?, signature, rfl⟩⟩

theorem aliasAt_typenameField (hs : List Head) :
    aliasAt (hs.map Head.entry) typenameField = none := by
  rw [aliasAt, if_neg fun h ↦ (exists_names_iff.1 h).1 rfl]

/-! ## Numbered heads -/

/-- The heads of a set to which entries have been added one at a time. -/
inductive NumberedHeads : List Head → Prop
  | nil : NumberedHeads []
  | snoc {hs : List Head} {h : Head} (hhs : NumberedHeads hs) (hplain : h.Plain)
      (hnew : h.entry ∉ hs.map Head.entry) :
      NumberedHeads (hs ++ [h.number (hs.map Head.entry)])

namespace NumberedHeads

/-- No entry repeats. -/
theorem nodup {hs : List Head} (hhs : NumberedHeads hs) : (hs.map Head.entry).Nodup := by
  induction hhs with
  | nil => exact List.nodup_nil
  | snoc _ _ hnew ih =>
    rw [List.map_append, List.map_singleton, Head.entry_number]
    exact List.nodup_append.2 ⟨ih, List.nodup_singleton _, fun e he e' he' ↦ by
      rw [List.mem_singleton.1 he']
      exact ne_of_mem_of_not_mem he hnew⟩

/-- The last head has been numbered behind the others. -/
theorem of_concat {hs : List Head} {h : Head} (hhs : NumberedHeads (hs ++ [h])) :
    NumberedHeads hs ∧ h.Plain ∧ h.entry ∉ hs.map Head.entry
      ∧ h.number (hs.map Head.entry) = h := by
  generalize hl : hs ++ [h] = l at hhs
  cases hhs with
  | nil => exact absurd hl (List.append_ne_nil_of_right_ne_nil _ (List.cons_ne_nil _ _))
  | @snoc hs' h' hhs hplain hnew =>
    obtain ⟨rfl, hh⟩ := List.append_inj' hl rfl
    obtain rfl := List.head_eq_of_cons_eq hh
    refine ⟨hhs, ?_, ?_, ?_⟩
    · cases h' <;> exact hplain
    · rw [Head.entry_number]
      exact hnew
    · cases h' <;> rfl

/-- Every head has been numbered behind those in front of it. -/
theorem number_eq_self {front back : List Head} {h : Head}
    (hhs : NumberedHeads (front ++ h :: back)) : h.number (front.map Head.entry) = h := by
  induction back using List.reverseRecOn with
  | nil => exact hhs.of_concat.2.2.2
  | append_singleton back h' ih =>
    rw [← List.cons_append, ← List.append_assoc] at hhs
    exact ih hhs.of_concat.1

theorem eq_of_entry {hs : List Head} (hhs : NumberedHeads hs) {h h' : Head} (hh : h ∈ hs)
    (hh' : h' ∈ hs) (hentry : h.entry = h'.entry) : h = h' :=
  List.inj_on_of_nodup_map hhs.nodup hh hh' hentry

/-- Every field is bare or numbered by a position, and not named like an alias. -/
theorem shape {hs : List Head} (hhs : NumberedHeads hs) {name signature : String}
    {alias? : Option String} (hmem : .field name alias? signature ∈ hs) :
    isAlias name = false ∧ (alias? = none
      ∨ name ≠ typenameField ∧ ∃ i < hs.length, alias? = some (aliasKey i)) := by
  induction hhs with
  | nil => exact absurd hmem List.not_mem_nil
  | @snoc hs h _ hplain _ ih =>
    rw [List.length_append, List.length_singleton]
    rcases List.mem_append.1 hmem with hmem | hmem
    · rcases ih hmem with ⟨hname, hbare | ⟨hne, i, hi, halias⟩⟩
      · exact ⟨hname, .inl hbare⟩
      · exact ⟨hname, .inr ⟨hne, i, Nat.lt_succ_of_lt hi, halias⟩⟩
    · cases h with
      | field name' alias?' signature' =>
        obtain ⟨rfl, rfl, -⟩ := Head.field.inj (List.mem_singleton.1 hmem)
        refine ⟨hplain, ?_⟩
        rw [aliasAt]
        split_ifs with hnames
        · exact .inr ⟨(exists_names_iff.1 hnames).1, hs.length, Nat.lt_succ_self _,
            by rw [List.length_map]⟩
        · exact .inl rfl
      | fragment typeCondition => cases List.mem_singleton.1 hmem

theorem plain {hs : List Head} (hhs : NumberedHeads hs) {h : Head} (hh : h ∈ hs) : h.Plain := by
  cases h with
  | field name alias? signature => exact (hhs.shape hh).1
  | fragment typeCondition => trivial

/-- The key of a new field is not in use. -/
theorem keyAt_ne {hs : List Head} (hhs : NumberedHeads hs) {name signature : String}
    (hplain : isAlias name = false) (hnew : Entry.ofField name signature ∉ hs.map Head.entry)
    {h : Head} (hh : h ∈ hs) :
    h.responseKey? ≠ some (keyAt (hs.map Head.entry) name) := by
  cases h with
  | fragment typeCondition => exact fun h ↦ nomatch h
  | field name' alias? signature' =>
    intro hkey
    have hkey : alias?.getD name' = keyAt (hs.map Head.entry) name := Option.some.inj hkey
    obtain ⟨hplain', halias⟩ := hhs.shape hh
    by_cases hnames : ∃ e ∈ hs.map Head.entry, e.names name = true
    · rw [keyAt_of_names hnames, List.length_map] at hkey
      rcases halias with rfl | ⟨-, i, hi, rfl⟩
      · exact aliasKey_ne hplain' hkey.symm
      · have := aliasKey_injective hkey
        omega
    · rw [keyAt_of_not_names hnames] at hkey
      rcases halias with rfl | ⟨-, i, -, rfl⟩
      · -- A bare field of this name is the same `__typename`, or has been there before.
        obtain rfl : name' = name := hkey
        by_cases hname : name' = typenameField
        · exact hnew (List.mem_map.2 ⟨_, hh, Entry.ofField_eq_iff.2 ⟨rfl, .inl hname⟩⟩)
        · exact hnames (exists_names_iff.2 ⟨hname, _, _, hh⟩)
      · exact aliasKey_ne hplain hkey

theorem responseKey?_number {before : List Entry} {h : Head} {key : String}
    (hkey : (h.number before).responseKey? = some key) :
    ∃ name alias? signature, h = .field name alias? signature ∧ key = keyAt before name := by
  cases h with
  | field name alias? signature => exact ⟨name, alias?, signature, rfl, (Option.some.inj hkey).symm⟩
  | fragment typeCondition => cases hkey

/-- **No key is used twice.** -/
theorem eq_of_responseKey? {hs : List Head} (hhs : NumberedHeads hs) {h h' : Head} {key : String}
    (hh : h ∈ hs) (hh' : h' ∈ hs) (hkey : h.responseKey? = some key)
    (hkey' : h'.responseKey? = some key) : h = h' := by
  induction hhs with
  | nil => exact absurd hh List.not_mem_nil
  | @snoc hs new hhs hplain hnew ih =>
    have hfresh : ∀ old ∈ hs, old.responseKey? = some key →
        (new.number (hs.map Head.entry)).responseKey? ≠ some key := by
      intro old hold hkey hself
      obtain ⟨name, alias?, signature, rfl, rfl⟩ := responseKey?_number hself
      exact hhs.keyAt_ne hplain hnew hold hkey
    obtain hh | hh := List.mem_append.1 hh <;> obtain hh' | hh' := List.mem_append.1 hh'
    · exact ih hh hh'
    · rw [List.mem_singleton.1 hh'] at hkey'
      exact absurd hkey' (hfresh h hh hkey)
    · rw [List.mem_singleton.1 hh] at hkey
      exact absurd hkey (hfresh h' hh' hkey')
    · rw [List.mem_singleton.1 hh, List.mem_singleton.1 hh']

/-- In a set, a key stands for an entry. -/
theorem responseKey?_eq_some_iff {hs : List Head} (hhs : NumberedHeads hs) {h h' : Head}
    {key : String} (hh : h ∈ hs) (hh' : h' ∈ hs) (hkey : h.responseKey? = some key) :
    h'.responseKey? = some key ↔ h'.entry = h.entry := by
  constructor
  · intro hkey'
    rw [hhs.eq_of_responseKey? hh hh' hkey hkey']
  · intro hentry
    rw [hhs.eq_of_entry hh' hh hentry, hkey]

end NumberedHeads

/-! ## The resolver of numbered heads -/

/-- The resolver that has resolved the fields of the given heads. -/
def resolverOf (hs : List Head) : AliasResolver :=
  ⟨hs.filterMap Head.occurrence?⟩

theorem resolverOf_concat (hs : List Head) (h : Head) :
    resolverOf (hs ++ [h]) = ⟨(resolverOf hs).occurrences ++ h.occurrence?.toList⟩ := by
  rw [resolverOf, List.filterMap_append]
  cases hh : h.occurrence? <;> simp [resolverOf, hh]

theorem mem_resolverOf {hs : List Head} {o : Occurrence} : o ∈ (resolverOf hs).occurrences ↔
    o.field ≠ typenameField
      ∧ ∃ alias?, .field o.field alias? o.signature ∈ hs ∧ o.key = alias?.getD o.field := by
  rw [resolverOf, List.mem_filterMap]
  simp only [Head.occurrence?_eq_some_iff]
  constructor
  · rintro ⟨_, hmem, hname, alias?, rfl, hkey⟩
    exact ⟨hname, alias?, hmem, hkey⟩
  · rintro ⟨hname, alias?, hmem, hkey⟩
    exact ⟨_, hmem, hname, alias?, rfl, hkey⟩

namespace NumberedHeads

variable {hs : List Head} (hhs : NumberedHeads hs) {name signature : String}
include hhs

/-- An entry that is there keeps its key. -/
theorem resolve_of_mem (index : Nat) {h : Head} (hh : h ∈ hs)
    (hentry : h.entry = .ofField name signature) :
    ∃ key, h.responseKey? = some key
      ∧ (resolverOf hs).resolve name signature index = (key, resolverOf hs) := by
  cases h with
  | fragment typeCondition =>
    rw [Head.entry, Entry.ofField] at hentry
    split_ifs at hentry
  | field name' alias? signature' =>
    refine ⟨alias?.getD name', rfl, ?_⟩
    obtain ⟨rfl, hsignature⟩ := Entry.ofField_eq_iff.1 hentry
    by_cases hname : name' = typenameField
    · rcases hhs.shape hh with ⟨-, rfl | ⟨hne, -⟩⟩
      · rw [hname, AliasResolver.resolve_typenameField, Option.getD_none]
      · exact absurd hname hne
    · obtain rfl := hsignature.resolve_left hname
      have hmem : ⟨name', signature', alias?.getD name'⟩ ∈ (resolverOf hs).occurrences :=
        mem_resolverOf.2 ⟨hname, alias?, hh, rfl⟩
      cases hfind : (resolverOf hs).find? name' signature' with
      | none => exact absurd rfl (AliasResolver.find?_eq_none_iff.1 hfind _ hmem rfl)
      | some o =>
        obtain ⟨ho, rfl, rfl⟩ := AliasResolver.find?_eq_some hfind
        obtain ⟨-, alias?', hh', hkey⟩ := mem_resolverOf.1 ho
        obtain ⟨-, rfl, -⟩ := Head.field.inj (hhs.eq_of_entry hh hh' rfl)
        rw [AliasResolver.resolve_of_find?_eq_some hname hfind, hkey]

/-- A new key is numbered by its position if the name has occurred. -/
theorem newKey_resolverOf (hname : name ≠ typenameField) :
    (resolverOf hs).newKey name hs.length = keyAt (hs.map Head.entry) name := by
  have hmentions : (resolverOf hs).mentions name = true ↔
      ∃ e ∈ hs.map Head.entry, e.names name = true := by
    rw [AliasResolver.mentions_iff, exists_names_iff]
    constructor
    · rintro ⟨o, ho, rfl⟩
      obtain ⟨-, alias?, hmem, -⟩ := mem_resolverOf.1 ho
      exact ⟨hname, alias?, o.signature, hmem⟩
    · rintro ⟨-, alias?, signature, hmem⟩
      exact ⟨⟨name, signature, alias?.getD name⟩, mem_resolverOf.2 ⟨hname, alias?, hmem, rfl⟩, rfl⟩
  rw [AliasResolver.newKey]
  by_cases h : (resolverOf hs).mentions name = true
  · rw [if_pos h, keyAt_of_names (hmentions.1 h), List.length_map]
    refine Name.fresh_eq_of_not_mem fun hmem ↦ ?_
    obtain ⟨o, ho, hkey⟩ := List.mem_map.1 hmem
    obtain ⟨-, alias?, hh, hkey'⟩ := mem_resolverOf.1 ho
    rcases hhs.shape hh with ⟨hplain, rfl | ⟨-, i, hi, rfl⟩⟩
    · exact aliasKey_ne hplain (hkey.symm.trans hkey')
    · have := aliasKey_injective (hkey.symm.trans hkey')
      omega
  · rw [if_neg h, keyAt_of_not_names (mt hmentions.2 h)]

/-- An entry that is not there gets the key of its position, and is remembered. -/
theorem resolve_of_not_mem (hnew : Entry.ofField name signature ∉ hs.map Head.entry) :
    (resolverOf hs).resolve name signature hs.length
      = (keyAt (hs.map Head.entry) name,
        resolverOf (hs ++ [.field name (aliasAt (hs.map Head.entry) name) signature])) := by
  rw [resolverOf_concat, Head.occurrence?]
  by_cases hname : name = typenameField
  · subst hname
    rw [AliasResolver.resolve_typenameField, keyAt, aliasAt_typenameField, if_pos rfl]
    simp [resolverOf]
  · have hfind : (resolverOf hs).find? name signature = none := by
      rw [AliasResolver.find?_eq_none_iff]
      rintro o ho rfl rfl
      obtain ⟨-, alias?, hmem, -⟩ := mem_resolverOf.1 ho
      exact hnew (List.mem_map_of_mem (f := Head.entry) hmem)
    rw [AliasResolver.resolve_of_find?_eq_none hname hfind, hhs.newKey_resolverOf hname,
      if_neg hname]
    rfl

end NumberedHeads

end Query
end QueryBuilder
