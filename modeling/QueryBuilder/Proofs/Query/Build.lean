import QueryBuilder.Query.Selection

/-!
# Building selection sets

Selection sets are only ever built by calls: they start empty and take fields, `__typename`,
fragments and whole other sets.

## What is here

* `Step`, `SelectionSet.apply`, `SelectionSet.run` — a call, and a list of calls made on a set.
* `SelectionSet.Built allowed` — the sets that can be built when the field names are `allowed` at
  every depth.  `Reachable` puts no condition on the names; `Plain` excludes names that look like
  generated aliases.
* `SelectionSet.mergeAll_eq_foldl`, `SelectionSet.apply_of_mergeOne` — every call comes down to
  adding selections one at a time, so what `mergeOne` keeps, every call and every run keeps.
-/

set_option autoImplicit false

namespace QueryBuilder
namespace Query

/-- A call of a query builder. -/
inductive Step where
  | field (name : String) (arguments : List Argument) (nested : Option SelectionSet)
  | typename
  | fragment (typeCondition : String) (nested : SelectionSet)
  | merge (other : SelectionSet)

namespace SelectionSet

/-- The set after a call. -/
def apply (set : SelectionSet) : Step → SelectionSet
  | .field name arguments nested => (set.addField name arguments nested).2
  | .typename => set.addTypename
  | .fragment typeCondition nested => set.addFragment typeCondition nested
  | .merge other => set.merge other

/-- The set after a list of calls. -/
def run (set : SelectionSet) (steps : List Step) : SelectionSet :=
  steps.foldl apply set

theorem run_append (set : SelectionSet) (steps steps' : List Step) :
    set.run (steps ++ steps') = (set.run steps).run steps' :=
  List.foldl_append

/-! ## Sets that can be built -/

/-- The set is the result of calls, and so are the sets inside it.  All field names are allowed. -/
inductive Built (allowed : String → Prop) : SelectionSet → Prop
  | empty : Built allowed .empty
  | field {set : SelectionSet} {name : String} {arguments : List Argument}
      {nested : Option SelectionSet} (hset : Built allowed set) (hname : allowed name)
      (hnested : ∀ below ∈ nested, Built allowed below) :
      Built allowed (set.addField name arguments nested).2
  | typename {set : SelectionSet} (hset : Built allowed set) : Built allowed set.addTypename
  | fragment {set nested : SelectionSet} {typeCondition : String} (hset : Built allowed set)
      (hnested : Built allowed nested) : Built allowed (set.addFragment typeCondition nested)
  | merge {set other : SelectionSet} (hset : Built allowed set) (hother : Built allowed other) :
      Built allowed (set.merge other)

/-- The set can be built. -/
def Reachable : SelectionSet → Prop :=
  Built fun _ ↦ True

/-- The set can be built, and no field in it is named like a generated alias. -/
def Plain : SelectionSet → Prop :=
  Built fun name ↦ isAlias name = false

theorem Built.withTypename {allowed : String → Prop} : Built allowed .withTypename :=
  .typename .empty

end SelectionSet

/-- The call keeps to allowed names and to sets that can be built with them. -/
def Step.Allowed (allowed : String → Prop) : Step → Prop
  | .field name _ nested => allowed name ∧ ∀ below ∈ nested, below.Built allowed
  | .typename => True
  | .fragment _ nested => nested.Built allowed
  | .merge other => other.Built allowed

/-- The call names no field like a generated alias, at any depth. -/
def Step.Plain : Step → Prop :=
  Step.Allowed fun name ↦ isAlias name = false

theorem Step.allowed_leaf {allowed : String → Prop} {name : String} (hname : allowed name)
    (arguments : List Argument) : Step.Allowed allowed (.field name arguments none) :=
  ⟨hname, fun _ h ↦ nomatch h⟩

theorem Step.allowed_above {allowed : String → Prop} {name : String} (hname : allowed name)
    (arguments : List Argument) {below : SelectionSet} (hbelow : below.Built allowed) :
    Step.Allowed allowed (.field name arguments (some below)) :=
  ⟨hname, fun _ h ↦ Option.some.inj h ▸ hbelow⟩

namespace SelectionSet

theorem Built.apply {allowed : String → Prop} {set : SelectionSet} (hset : set.Built allowed)
    {step : Step} (hstep : step.Allowed allowed) : (set.apply step).Built allowed := by
  cases step with
  | field name arguments nested => exact .field hset hstep.1 hstep.2
  | typename => exact .typename hset
  | fragment typeCondition nested => exact .fragment hset hstep
  | merge other => exact .merge hset hstep

theorem Built.run {allowed : String → Prop} {set : SelectionSet} (hset : set.Built allowed)
    {steps : List Step} (hsteps : ∀ step ∈ steps, step.Allowed allowed) :
    (set.run steps).Built allowed :=
  List.foldlRecOn steps SelectionSet.apply hset fun _ h step hstep ↦ h.apply (hsteps step hstep)

/-! ## One selection at a time -/

theorem mergeAll_eq_foldl (set : SelectionSet) (selections : List Selection) :
    set.mergeAll selections = selections.foldl mergeOne set := by
  induction selections generalizing set with
  | nil => rw [mergeAll, List.foldl_nil]
  | cons s rest ih => rw [mergeAll, List.foldl_cons, ih]

theorem merge_eq_foldl (set added : SelectionSet) :
    set.merge added = added.selections.foldl mergeOne set := by
  cases added with
  | mk selections aliases => rw [merge, mergeAll_eq_foldl, SelectionSet.selections]

theorem merge_of_mergeOne {P : SelectionSet → Prop} (hone : ∀ set s, P set → P (mergeOne set s))
    {set : SelectionSet} (hset : P set) (added : SelectionSet) : P (set.merge added) := by
  rw [merge_eq_foldl]
  exact List.foldlRecOn _ mergeOne hset fun set h s _ ↦ hone set s h

/-- What adding one selection keeps, every call keeps. -/
theorem apply_of_mergeOne {P : SelectionSet → Prop} (hone : ∀ set s, P set → P (mergeOne set s))
    {set : SelectionSet} (hset : P set) (step : Step) : P (set.apply step) := by
  cases step with
  | field name arguments nested => exact hone _ _ hset
  | typename => exact hone _ _ hset
  | fragment typeCondition nested => exact hone _ _ hset
  | merge other => exact merge_of_mergeOne hone hset other

theorem run_of_mergeOne {P : SelectionSet → Prop} (hone : ∀ set s, P set → P (mergeOne set s))
    {set : SelectionSet} (hset : P set) (steps : List Step) : P (set.run steps) :=
  List.foldlRecOn steps apply hset fun _ h step _ ↦ apply_of_mergeOne hone h step

/-- What the empty set has and adding one selection keeps, every set that can be built has. -/
theorem Built.of_mergeOne {allowed : String → Prop} {P : SelectionSet → Prop}
    (hempty : P .empty) (hone : ∀ set s, P set → P (mergeOne set s)) {set : SelectionSet}
    (hset : set.Built allowed) : P set := by
  induction hset with
  | empty => exact hempty
  | field _ _ _ ih => exact hone _ _ ih
  | typename _ ih => exact hone _ _ ih
  | fragment _ _ ih => exact hone _ _ ih
  | merge _ _ ih _ => exact merge_of_mergeOne hone ih _

end SelectionSet

end Query
end QueryBuilder
