import Mathlib.Data.List.Forall2
import QueryBuilder.Code.Names

/-!
# Which types have which identifiers

The identifiers of a type are claimed in three rounds, but whether it has a builder, a variant enum
and a module depends on the type alone.

* `Names.get?_ofGraph` — the identifiers of a type, each claimed from some scope.
* `Names.Fit`, `Names.exists_fit` — a type has a module if it gets a unit, a builder if it is
  composite as well, and a variant enum if it is abstract.
-/

set_option autoImplicit false

namespace QueryBuilder
namespace Code
namespace Names

open Schema

/-! ## Rounds -/

/-- A round claims for every element, from some scope that has what claims keep. -/
theorem forall₂_round_of {α β : Type} {P : Name.Scope → Prop}
    (claim : Name.Scope → α → β × Name.Scope) (hclaim : ∀ s a, P s → P (claim s a).2)
    {scope : Name.Scope} (hscope : P scope) (l : List α) :
    List.Forall₂ (fun a b ↦ ∃ before, P before ∧ (claim before a).1 = b) l
      (round claim scope l).1 := by
  induction l generalizing scope with
  | nil => exact .nil
  | cons a rest ih => exact .cons ⟨scope, hscope, rfl⟩ (ih (hclaim scope a hscope))

theorem forall₂_round {α β : Type} (claim : Name.Scope → α → β × Name.Scope) (scope : Name.Scope)
    (l : List α) :
    List.Forall₂ (fun a b ↦ ∃ before, (claim before a).1 = b) l (round claim scope l).1 :=
  (forall₂_round_of (P := fun _ ↦ True) claim (fun _ _ _ ↦ trivial) trivial l).imp
    fun _ _ ⟨before, _, h⟩ ↦ ⟨before, h⟩

theorem exists_getElem?_round {α β : Type} (claim : Name.Scope → α → β × Name.Scope)
    (scope : Name.Scope) {l : List α} {i : Nat} {a : α} (h : l[i]? = some a) :
    ∃ before, (round claim scope l).1[i]? = some (claim before a).1 := by
  have hround := forall₂_round claim scope l
  obtain ⟨hi, rfl⟩ := List.getElem?_eq_some_iff.1 h
  have hi' : i < (round claim scope l).1.length := hround.length_eq ▸ hi
  obtain ⟨before, hb⟩ := hround.get hi hi'
  refine ⟨before, ?_⟩
  rw [List.getElem?_eq_getElem hi']
  exact congrArg some hb.symm

theorem length_round {α β : Type} (claim : Name.Scope → α → β × Name.Scope) (scope : Name.Scope)
    (l : List α) : (round claim scope l).1.length = l.length :=
  (forall₂_round claim scope l).length_eq.symm

theorem getElem?_zip {α β : Type} {l : List α} {m : List β} {i : Nat} {a : α} {b : β}
    (hl : l[i]? = some a) (hm : m[i]? = some b) : (l.zip m)[i]? = some (a, b) :=
  List.getElem?_zip_eq_some.2 ⟨hl, hm⟩

/-! ## The identifiers of a type -/

variable {g : TypeGraph} {options : Options} {id : TypeId}

/-- **Every type has identifiers, each claimed from some scope.** -/
theorem get?_ofGraph {t : NamedType} (h : g.get? id = some t) :
    ∃ s s' s'', ((ofGraph g options).get? id) = some
      { ident := (claimIdent options s t).1
        builder? := (claimParts options s' t (claimIdent options s t).1).1.1
        variants? := (claimParts options s' t (claimIdent options s t).1).1.2
        module? := (claimModule options s'' t).1 } := by
  obtain ⟨s, hident⟩ := exists_getElem?_round (claimIdent options) startScope h
  have hpair : (g.types.zip (round (claimIdent options) startScope g.types).1)[id.index]?
      = some (t, (claimIdent options s t).1) := getElem?_zip h hident
  obtain ⟨s', hparts⟩ := exists_getElem?_round
    (fun scope entry ↦ claimParts options scope entry.1 entry.2)
    (round (claimIdent options) startScope g.types).2 hpair
  obtain ⟨s'', hmodule⟩ := exists_getElem?_round (claimModule options)
    (round (fun scope entry ↦ claimParts options scope entry.1 entry.2)
      (round (claimIdent options) startScope g.types).2
      (g.types.zip (round (claimIdent options) startScope g.types).1)).2 h
  have hzip := getElem?_zip hident (getElem?_zip hparts hmodule)
  exact ⟨s, s', s'', (List.getElem?_map ..).trans (congrArg (Option.map _) hzip)⟩

/-- There are identifiers for the types of the graph and no others. -/
theorem get?_ofGraph_eq_none (h : g.get? id = none) : (ofGraph g options).get? id = none := by
  have hlength : (ofGraph g options).types.length = g.types.length := by
    rw [ofGraph]
    simp [length_round]
  rw [get?, List.getElem?_eq_none_iff, hlength]
  exact List.getElem?_eq_none_iff.1 h

theorem isComposite_of_isAbstract {kind : TypeKind} (h : kind.isAbstract = true) :
    kind.isComposite = true := by
  revert h
  cases kind <;> decide

/-- Which identifiers a type has depends on its kind and on whether it gets a unit. -/
structure Fit (options : Options) (t : NamedType) (n : TypeNames) : Prop where
  builder : n.builder?.isSome = (options.emits t && t.kind.isComposite)
  variants : n.variants?.isSome = (options.emits t && t.kind.isAbstract)
  module : n.module?.isSome = options.emits t
  /-- Built-in scalars keep their names. -/
  builtin : t.isBuiltinScalar = true → n.ident = t.name

theorem fit_claims (options : Options) (t : NamedType) (s s' s'' : Name.Scope) :
    Fit options t
      { ident := (claimIdent options s t).1
        builder? := (claimParts options s' t (claimIdent options s t).1).1.1
        variants? := (claimParts options s' t (claimIdent options s t).1).1.2
        module? := (claimModule options s'' t).1 } where
  builder := by
    rw [claimParts]
    split_ifs with hparts habstract
    · exact hparts.symm
    · exact hparts.symm
    · exact (Bool.eq_false_iff.2 hparts).symm
  variants := by
    rw [claimParts]
    split_ifs with hparts habstract
    · rw [habstract, (Bool.and_eq_true_iff.1 hparts).1]
      rfl
    · rw [Bool.eq_false_iff.2 habstract, Bool.and_false]
      rfl
    · rw [Option.isSome_none, eq_comm, Bool.eq_false_iff]
      refine fun h ↦ hparts ?_
      rw [Bool.and_eq_true] at h ⊢
      exact h.imp_right isComposite_of_isAbstract
  module := by
    rw [claimModule]
    split_ifs with hemits
    · exact hemits.symm
    · exact (Bool.eq_false_iff.2 hemits).symm
  builtin h := by
    rw [claimIdent, if_pos h]

/-- **The identifiers of a type fit it.** -/
theorem exists_fit {t : NamedType} (h : g.get? id = some t) (options : Options) :
    ∃ n, (ofGraph g options).get? id = some n ∧ Fit options t n := by
  obtain ⟨s, s', s'', hget⟩ := get?_ofGraph h
  exact ⟨_, hget, fit_claims options t s s' s''⟩

theorem ident_eq {names : Names} {n : TypeNames} (h : names.get? id = some n) :
    names.ident id = n.ident := by
  rw [ident, h]

/-- A type has a module exactly if it gets a unit. -/
theorem module?_isSome_iff : (((ofGraph g options).get? id).bind (·.module?)).isSome = true ↔
    ∃ t, g.get? id = some t ∧ options.emits t = true := by
  cases h : g.get? id with
  | none => simp [get?_ofGraph_eq_none h]
  | some t =>
    obtain ⟨n, hget, hfit⟩ := exists_fit h options
    rw [hget, Option.bind_some, hfit.module]
    simp

end Names
end Code
end QueryBuilder
