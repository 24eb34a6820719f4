import Mathlib.Data.List.Forall2
import QueryBuilder.Code.Module

/-!
# What generated code takes from other types

The unit of a type is made from the type and from the graph around it.  Of the graph it takes no
more than the heads of types, their names and kinds, and the roots: identifiers, modules and the
filters for fields are decided by them.

* `TypeGraph.mapTypes`, `NamedType.KeepsHeads` — a change of all types of a graph, and that it
  leaves the heads alone.
* `Names.ofGraph_mapTypes` — such a change keeps all identifiers.
* `Declaration.ofType?_mapTypes` — and what is declared for a type that is given.
* `typeUnits_mapTypes` — so it changes the unit of a type by what it does to this type.
-/

set_option autoImplicit false

namespace QueryBuilder
namespace Schema

/-- The graph with every type changed, at its address. -/
def TypeGraph.mapTypes (f : NamedType → NamedType) (g : TypeGraph) : TypeGraph :=
  { g with types := g.types.map f }

/-- A change of types that keeps their names and kinds. -/
structure NamedType.KeepsHeads (f : NamedType → NamedType) : Prop where
  name : ∀ t, (f t).name = t.name
  kind : ∀ t, (f t).kind = t.kind

namespace TypeGraph

variable {f : NamedType → NamedType} (g : TypeGraph)

theorem get?_mapTypes (id : TypeId) : (g.mapTypes f).get? id = (g.get? id).map f :=
  List.getElem?_map ..

theorem entries_mapTypes :
    (g.mapTypes f).entries = g.entries.map fun entry ↦ (entry.1, f entry.2) := by
  rw [entries, entries, mapTypes, List.zipIdx_map, List.map_map, List.map_map]
  rfl

theorem nameOf_mapTypes (hf : NamedType.KeepsHeads f) : (g.mapTypes f).nameOf = g.nameOf := by
  funext id
  rw [nameOf, nameOf, get?_mapTypes]
  cases g.get? id with
  | none => rfl
  | some t => exact hf.name t

theorem kindOf?_mapTypes (hf : NamedType.KeepsHeads f) : (g.mapTypes f).kindOf? = g.kindOf? := by
  funext id
  rw [kindOf?, kindOf?, get?_mapTypes, Option.map_map]
  exact congrArg (Option.map · _) (funext hf.kind)

end TypeGraph
end Schema

namespace Code

open Schema

variable {f : NamedType → NamedType} (hf : NamedType.KeepsHeads f)

/-! ## Identifiers -/

theorem round_map {α α' β : Type} (claim : Name.Scope → α' → β × Name.Scope) (f : α → α')
    (scope : Name.Scope) (l : List α) :
    Names.round claim scope (l.map f) = Names.round (fun scope a ↦ claim scope (f a)) scope l := by
  induction l generalizing scope with
  | nil => rfl
  | cons a rest ih => simp only [List.map_cons, Names.round, ih]

section

include hf

theorem isBuiltinScalar_eq (t : NamedType) : (f t).isBuiltinScalar = t.isBuiltinScalar := by
  rw [NamedType.isBuiltinScalar, NamedType.isBuiltinScalar, hf.kind, hf.name]

theorem emits_eq (options : Options) (t : NamedType) : options.emits (f t) = options.emits t := by
  rw [Options.emits, Options.emits, hf.kind, NamedType.isIntrospection, hf.name,
    NamedType.isIntrospection]

theorem claimIdent_eq (options : Options) (scope : Name.Scope) (t : NamedType) :
    Names.claimIdent options scope (f t) = Names.claimIdent options scope t := by
  rw [Names.claimIdent, Names.claimIdent, isBuiltinScalar_eq hf, emits_eq hf, hf.kind, hf.name]

theorem claimParts_eq (options : Options) (scope : Name.Scope) (t : NamedType) (ident : String) :
    Names.claimParts options scope (f t) ident = Names.claimParts options scope t ident := by
  rw [Names.claimParts, Names.claimParts, emits_eq hf, hf.kind]

theorem claimModule_eq (options : Options) (scope : Name.Scope) (t : NamedType) :
    Names.claimModule options scope (f t) = Names.claimModule options scope t := by
  rw [Names.claimModule, Names.claimModule, emits_eq hf, Names.moduleBase, hf.name,
    Names.moduleBase]

variable (g : TypeGraph) (options : Options)

/-- **Identifiers are claimed by the heads of types.** -/
theorem Names.ofGraph_mapTypes : ofGraph (g.mapTypes f) options = ofGraph g options := by
  have hparts (idents : List String) : (g.types.map f).zip idents
      = (g.types.zip idents).map fun entry ↦ (f entry.1, entry.2) := by
    rw [List.zip_map_left]
    rfl
  simp only [ofGraph, TypeGraph.mapTypes, round_map, hparts, claimIdent_eq hf, claimParts_eq hf,
    claimModule_eq hf]

/-! ## Filters -/

theorem isKnown_mapTypes : isKnown (g.mapTypes f) options = isKnown g options := by
  funext id
  rw [isKnown, isKnown, TypeGraph.get?_mapTypes]
  cases g.get? id with
  | none => rfl
  | some t => simp only [Option.map_some, hf.kind, emits_eq hf]

theorem isUsable_mapTypes : isUsable (g.mapTypes f) options = isUsable g options := by
  funext field
  rw [isUsable, isUsable, isKnown_mapTypes hf]

/-! ## Declarations -/

variable (names : Names) (id : TypeId) (t : NamedType)

theorem Selector.ofFields_mapTypes :
    Selector.ofFields (g.mapTypes f) names = Selector.ofFields g names := by
  funext fields
  simp only [ofFields, ofField, nestedBuilder?, TypeGraph.kindOf?_mapTypes g hf]

theorem Member.ofType_mapTypes : Member.ofType (g.mapTypes f) names t = Member.ofType g names t := by
  funext fields
  simp only [ofType, TypeGraph.nameOf_mapTypes g hf]

theorem Composite.ofType_mapTypes :
    Composite.ofType (g.mapTypes f) options names id t = Composite.ofType g options names id t := by
  simp only [ofType, isUsable_mapTypes hf, Selector.ofFields_mapTypes hf,
    Member.ofType_mapTypes hf]
  rfl

theorem InputStruct.ofType_mapTypes :
    InputStruct.ofType (g.mapTypes f) options names id t
      = InputStruct.ofType g options names id t := by
  funext fields
  simp only [ofType, StructMember.ofField, holdsInputObject, isKnown_mapTypes hf,
    TypeGraph.kindOf?_mapTypes g hf]

/-- **A declaration takes heads from the graph and no more.** -/
theorem Declaration.ofType?_mapTypes :
    Declaration.ofType? (g.mapTypes f) options names id t
      = Declaration.ofType? g options names id t := by
  simp only [ofType?, Composite.ofType_mapTypes hf, InputStruct.ofType_mapTypes hf]

/-! ## Units -/

theorem typeUnits_mapTypes : typeUnits (g.mapTypes f) options names
    = g.entries.filterMap fun entry ↦ typeUnit? g options names (entry.1, f entry.2) := by
  rw [typeUnits, TypeGraph.entries_mapTypes, List.filterMap_map]
  refine List.filterMap_congr fun entry _ ↦ ?_
  rw [Function.comp_apply, typeUnit?, typeUnit?, Declaration.ofType?_mapTypes hf]

end

end Code
end QueryBuilder
