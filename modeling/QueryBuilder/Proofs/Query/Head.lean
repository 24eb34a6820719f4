import Mathlib.Data.List.Basic
import QueryBuilder.Proofs.Query.Alias
import QueryBuilder.Proofs.Query.Build

/-!
# What one call does to the top level of a set

Whatever is selected below a field or in a fragment plays no part in response keys.  What does is
the `Head` of a selection: its name, its alias and its signature, or its type condition.

A call either leaves the heads as they are or adds one at the end
(`SelectionSet.heads_place_of_mem`, `heads_place_of_not_mem`, `heads_placeFragment`), and the
resolver of the set after it is that of `SelectionSet.resolve` in both cases.
-/

set_option autoImplicit false

namespace QueryBuilder
namespace Query

/-- A selection without what is selected below it. -/
inductive Head where
  | field (name : String) (alias? : Option String) (signature : String)
  | fragment (typeCondition : String)
  deriving DecidableEq

/-- The key a field answers under. -/
def Head.responseKey? : Head → Option String
  | .field name alias? _ => some (alias?.getD name)
  | .fragment _ => none

/-- The head of a selection. -/
def Selection.head : Selection → Head
  | .field name alias? arguments _ => .field name alias? (renderArguments arguments)
  | .fragment typeCondition _ => .fragment typeCondition

namespace Selection

theorem responseKey?_head (s : Selection) : s.head.responseKey? = s.responseKey? := by
  cases s <;> rfl

@[simp]
theorem head_mapNested (f : Option SelectionSet → Option SelectionSet) (s : Selection) :
    (s.mapNested f).head = s.head := by
  cases s <;> rfl

@[simp]
theorem head_mapFragment (f : SelectionSet → SelectionSet) (s : Selection) :
    (s.mapFragment f).head = s.head := by
  cases s <;> rfl

theorem answersUnder_iff {key : String} {s : Selection} :
    s.answersUnder key = true ↔ s.responseKey? = some key := by
  rw [answersUnder, beq_iff_eq]

end Selection

/-! ## Changing the first entry that passes a test -/

section

variable {α : Type} {test : α → Bool} {change : α → α}

theorem modifyFirst_eq_none_iff {l : List α} :
    modifyFirst test change l = none ↔ ∀ a ∈ l, test a = false := by
  induction l with
  | nil => simp [modifyFirst]
  | cons a rest ih =>
    cases h : test a with
    | true => simp [modifyFirst, h]
    | false => simp [modifyFirst, h, ih]

/-- What the change does not touch stays the same along the list. -/
theorem map_modifyFirst {β : Type} {f : α → β} (hf : ∀ a, f (change a) = f a) {l m : List α}
    (h : modifyFirst test change l = some m) : m.map f = l.map f := by
  induction l generalizing m with
  | nil => cases h
  | cons a rest ih =>
    rw [modifyFirst] at h
    split_ifs at h
    · obtain rfl := Option.some.inj h
      rw [List.map_cons, List.map_cons, hf]
    · obtain ⟨m', hm', rfl⟩ := Option.map_eq_some_iff.1 h
      rw [List.map_cons, List.map_cons, ih hm']

end

/-! ## Heads of a set -/

namespace SelectionSet

/-- The heads of the selections of a set, in order. -/
def heads (set : SelectionSet) : List Head :=
  set.selections.map Selection.head

/-- The keys that the fields of a set answer under, in order. -/
def responseKeys (set : SelectionSet) : List String :=
  set.heads.filterMap Head.responseKey?

theorem mem_responseKeys {set : SelectionSet} {key : String} :
    key ∈ set.responseKeys ↔ ∃ s ∈ set.selections, s.responseKey? = some key := by
  simp only [responseKeys, heads, List.mem_filterMap, List.mem_map, exists_exists_and_eq_and,
    Selection.responseKey?_head]

/-- The head that a new occurrence of a field gets. -/
def newHead (key name : String) (arguments : List Argument) : Head :=
  .field name (if key = name then none else some key) (renderArguments arguments)

theorem responseKey?_newHead (key name : String) (arguments : List Argument) :
    (newHead key name arguments).responseKey? = some key := by
  rw [newHead, Head.responseKey?]
  split_ifs with h
  · rw [Option.getD_none, h]
  · rw [Option.getD_some]

section

variable {set : SelectionSet} {name : String} {arguments : List Argument}
  {nested : Option SelectionSet} {change : Option SelectionSet → Option SelectionSet}

/-- If a field answers under the key of the occurrence, it is changed. -/
theorem place_of_some {changed : List Selection}
    (h : modifyFirst (·.answersUnder (set.resolve name arguments).1) (·.mapNested change)
      set.selections = some changed) :
    set.place name arguments nested change = .mk changed (set.resolve name arguments).2 := by
  rw [place]
  simp only [h]

/-- If no field answers under the key of the occurrence, it is added at the end. -/
theorem place_of_none
    (h : modifyFirst (·.answersUnder (set.resolve name arguments).1) (·.mapNested change)
      set.selections = none) :
    set.place name arguments nested change
      = .mk (set.selections ++ [.field name (if (set.resolve name arguments).1 = name then none
          else some (set.resolve name arguments).1) arguments nested])
        (set.resolve name arguments).2 := by
  rw [place]
  simp only [h]

theorem aliases_place :
    (set.place name arguments nested change).aliases = (set.resolve name arguments).2 := by
  cases h : modifyFirst (·.answersUnder (set.resolve name arguments).1) (·.mapNested change)
      set.selections with
  | some changed => rw [place_of_some h, aliases]
  | none => rw [place_of_none h, aliases]

theorem modifyFirst_answersUnder_eq_none_iff {key : String} :
    modifyFirst (·.answersUnder key) (·.mapNested change) set.selections = none ↔
      key ∉ set.responseKeys := by
  rw [modifyFirst_eq_none_iff, mem_responseKeys]
  simp only [← Selection.answersUnder_iff, not_exists, not_and, Bool.not_eq_true]

theorem heads_place_of_mem (h : (set.resolve name arguments).1 ∈ set.responseKeys) :
    (set.place name arguments nested change).heads = set.heads := by
  obtain ⟨changed, hchanged⟩ := Option.ne_none_iff_exists'.1
    (mt modifyFirst_answersUnder_eq_none_iff.1 (not_not.2 h))
  rw [place_of_some hchanged]
  exact map_modifyFirst (Selection.head_mapNested change) hchanged

theorem heads_place_of_not_mem (h : (set.resolve name arguments).1 ∉ set.responseKeys) :
    (set.place name arguments nested change).heads
      = set.heads ++ [newHead (set.resolve name arguments).1 name arguments] := by
  rw [place_of_none (modifyFirst_answersUnder_eq_none_iff.2 h), heads, selections,
    List.map_append, List.map_singleton]
  rfl

theorem aliases_placeFragment {condition : String} {nested : SelectionSet}
    {change : SelectionSet → SelectionSet} :
    (set.placeFragment condition nested change).aliases = set.aliases := by
  rw [placeFragment]
  split <;> rfl

theorem heads_placeFragment {condition : String} {nested : SelectionSet}
    {change : SelectionSet → SelectionSet} :
    (set.placeFragment condition nested change).heads = set.heads
      ∨ (set.placeFragment condition nested change).heads = set.heads ++ [.fragment condition] := by
  rw [placeFragment]
  split
  · rename_i changed hchanged
    exact .inl (map_modifyFirst (Selection.head_mapFragment change) hchanged)
  · exact .inr (by rw [heads, selections, List.map_append]; rfl)

end

end SelectionSet

end Query
end QueryBuilder
