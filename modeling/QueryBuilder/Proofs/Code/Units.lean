import QueryBuilder.Proofs.Code.Closed
import QueryBuilder.Proofs.Code.Namespace
import QueryBuilder.Proofs.Path
import QueryBuilder.Proofs.Success

/-!
# The units of a generated module

The root of a generated module has to name its units as their files are called.

* `forall₂_typeUnits` — there is one unit for each type that gets one, in the order of
  registration.
* `map_module_typeUnits` — their modules are those that were claimed for the types.
* `nodup_paths` — no two units have one path.
* `IsUnitOf`, `rootText` — what the unit of a type is, and what the root says.
* `forall₂_isUnitOf`, `unitText_rootLines` — the files of types are their units, and the root
  declares and re-exports what it is given.

Types may be called anything here.  Modules are distinct because they are claimed from one scope,
they differ from `aliases` because that name is reserved in it, and from `mod` because no module is
called like a keyword.
-/

set_option autoImplicit false

namespace QueryBuilder
namespace Code

open Schema

variable (g : TypeGraph) (options : Options)

/-! ## Type units -/

theorem isSome_typeUnit? {entry : TypeId × NamedType} (h : entry ∈ g.entries) :
    (typeUnit? g options (Names.ofGraph g options) entry).isSome = options.emits entry.2 := by
  have hget : g.get? entry.1 = some entry.2 := TypeGraph.mem_entries_iff.1 h
  rw [Bool.eq_iff_iff, Option.isSome_iff_exists]
  exact ⟨fun ⟨_, hu⟩ ↦ emits_of_typeUnit? hget hu, exists_typeUnit? hget⟩

/-- **There is one unit for each type that gets one**, in the order of registration. -/
theorem forall₂_typeUnits : List.Forall₂
    (fun entry u ↦ typeUnit? g options (Names.ofGraph g options) entry = some u)
    (g.entries.filter fun entry ↦ options.emits entry.2)
    (typeUnits g options (Names.ofGraph g options)) :=
  forall₂_filterMap fun _ h ↦ isSome_typeUnit? g options h

/-! ## Modules -/

theorem map_typeUnit?_module {entry : TypeId × NamedType} (h : entry ∈ g.entries) :
    (typeUnit? g options (Names.ofGraph g options) entry).map (·.module)
      = ((Names.ofGraph g options).get? entry.1).bind (·.module?) := by
  have hget : g.get? entry.1 = some entry.2 := TypeGraph.mem_entries_iff.1 h
  cases hu : typeUnit? g options (Names.ofGraph g options) entry with
  | some u => exact (typeUnit?_eq_some_iff.1 hu).1.symm
  | none =>
    have hemits := isSome_typeUnit? g options h
    rw [hu] at hemits
    obtain ⟨n, hn, hfit⟩ := Names.exists_fit hget options
    rw [hn, Option.bind_some, Option.map_none, eq_comm,
      ← Option.isNone_iff_eq_none, ← Option.isSome_eq_false_iff, hfit.module, ← hemits]
    rfl

theorem length_ofGraph : (Names.ofGraph g options).types.length = g.types.length := by
  rw [← List.length_map (·.ident), Names.map_ident_ofGraph, Names.length_identRound]

/-- Going through the addresses of a graph is going through the identifiers of its types. -/
theorem map_get?_entries : g.entries.map (fun entry ↦ (Names.ofGraph g options).get? entry.1)
    = (Names.ofGraph g options).types.map some := by
  have hlength := length_ofGraph g options
  refine List.ext_getElem ?_ fun i hi hi' ↦ ?_
  · rw [List.length_map, List.length_map, TypeGraph.entries, List.length_map, List.length_zipIdx,
      hlength]
  · have hi'' : i < (Names.ofGraph g options).types.length := by simpa using hi'
    simp [TypeGraph.entries, Names.get?, hi'']

/-- **The modules of the units are those that were claimed.** -/
theorem map_module_typeUnits : (typeUnits g options (Names.ofGraph g options)).map (·.module)
    = (Names.partRound g options).2.freeAll
        (g.types.flatMap (Names.moduleAsks options)) := by
  rw [← Names.modules_eq, typeUnits, List.map_filterMap]
  calc g.entries.filterMap (fun entry ↦
        (typeUnit? g options (Names.ofGraph g options) entry).map (·.module))
    _ = g.entries.filterMap (fun entry ↦
          ((Names.ofGraph g options).get? entry.1).bind (·.module?)) :=
      List.filterMap_congr fun _ h ↦ map_typeUnit?_module g options h
    _ = (g.entries.map (fun entry ↦ (Names.ofGraph g options).get? entry.1)).filterMap
          (·.bind (·.module?)) := by
      rw [List.filterMap_map]
      rfl
    _ = (Names.ofGraph g options).types.filterMap (·.module?) := by
      rw [map_get?_entries, List.filterMap_map]
      rfl
    _ = _ := List.filterMap_eq_flatMap_toList _ _

/-- No two modules are called alike, and none is called like the root or the aliases. -/
theorem nodup_modules : ("mod" :: aliasesModule
    :: (typeUnits g options (Names.ofGraph g options)).map (·.module)).Nodup := by
  rw [map_module_typeUnits]
  have haliases : aliasesModule ∈ (Names.partRound g options).2.taken :=
    Names.mem_taken_partRound g options (by decide +kernel)
  refine List.nodup_cons.2 ⟨fun hmod ↦ ?_, List.nodup_cons.2
    ⟨fun h ↦ Name.Scope.freeAll_not_mem h haliases, Name.Scope.nodup_freeAll⟩⟩
  have hkeyword : "mod" ∈ Name.plainKeywords ++ Name.rawKeywords := by decide +kernel
  rcases List.mem_cons.1 hmod with heq | hmod
  · exact absurd heq (by decide)
  · exact Names.not_keyword_of_mem_modules g options hmod hkeyword

theorem map_path_generate : (generate g options).units.map (·.path.text)
    = ("mod" :: aliasesModule
        :: (typeUnits g options (Names.ofGraph g options)).map (·.module)).map (· ++ ".rs") := by
  rw [generate, List.map_cons, List.map_cons, List.map_map, List.map_cons, List.map_cons,
    List.map_map]
  rfl

/-- **No two units have one path.** -/
theorem nodup_paths : ((generate g options).units.map (·.path.text)).Nodup := by
  rw [map_path_generate]
  exact (nodup_modules g options).map fun _ _ h ↦ (String.append_left_inj _).1 h

/-! ## The root -/

/-- The text of the root of a module with some units. -/
def rootText (header : String) (modules : List String) : String :=
  printLines (headerLines header)
    ++ "#![allow(non_camel_case_types, non_snake_case, unused_imports, "
    ++ "dead_code, deprecated, clippy::all)]\n\n"
    ++ String.join (modules.map fun module ↦ "pub mod " ++ module ++ ";\n")
    ++ "\n"
    ++ String.join (modules.map fun module ↦ "pub use " ++ module ++ "::*;\n")

theorem printLines_append (ls ms : List Line) :
    printLines (ls ++ ms) = printLines ls ++ printLines ms := by
  rw [printLines, List.map_append, String.join_append, printLines, printLines]

theorem print_line {text : String} (h : text.isEmpty = false) :
    (line text).print = text ++ "\n" := by
  rw [Line.print, line, h, if_neg Bool.false_ne_true]
  exact congrArg (· ++ "\n") (String.empty_append)

/-- Lines that name one module each, between the same texts. -/
theorem printLines_map_line {opening closing : String} (h : opening ≠ "")
    (modules : List String) :
    printLines (modules.map fun module ↦ line (opening ++ module ++ closing))
      = String.join (modules.map fun module ↦ opening ++ module ++ (closing ++ "\n")) := by
  rw [printLines, List.map_map]
  refine congrArg String.join (List.map_congr_left fun module _ ↦ ?_)
  have hnonempty : (opening ++ module ++ closing).isEmpty = false := by
    simp [h]
  rw [Function.comp_apply, print_line hnonempty, String.append_assoc]

/-- **The root declares and re-exports its modules**, in order. -/
theorem unitText_rootLines (modules : List String) :
    unitText options (rootLines modules) = rootText options.header modules := by
  have hlint : printLines [lintLine, blank]
      = "#![allow(non_camel_case_types, non_snake_case, unused_imports, "
        ++ "dead_code, deprecated, clippy::all)]\n\n" := by
    decide +kernel
  have hblank : printLines [blank] = "\n" := by decide +kernel
  have hdeclare : printLines (modules.map declareLine)
      = String.join (modules.map fun module ↦ "pub mod " ++ module ++ ";\n") :=
    printLines_map_line (by decide) modules
  have hreexport : printLines (modules.map reexportLine)
      = String.join (modules.map fun module ↦ "pub use " ++ module ++ "::*;\n") :=
    printLines_map_line (by decide) modules
  rw [unitText, rootLines, printLines_append, printLines_append, printLines_append,
    printLines_append, hlint, hblank, hdeclare, hreexport, rootText]
  simp only [String.append_assoc]

/-! ## All files -/

/-- The unit is that of a type: it has the kind of the type, its file is called like the module of
the type, and it holds the declaration of the type. -/
structure IsUnitOf (g : TypeGraph) (options : Options) (entry : TypeId × NamedType)
    (u : CodeUnit) : Prop where
  kind : unitKind? entry.2.kind = some u.kind
  path : ∃ module, ((Names.ofGraph g options).get? entry.1).bind (·.module?) = some module
    ∧ u.path.text = module ++ ".rs"
  content : ∃ d, Declaration.ofType? g options (Names.ofGraph g options) entry.1 entry.2 = some d
    ∧ u.content = unitText options d.lines

theorem isUnitOf_toUnit {entry : TypeId × NamedType} {u : TypeUnit}
    (h : typeUnit? g options (Names.ofGraph g options) entry = some u) :
    IsUnitOf g options entry (u.toUnit options) := by
  obtain ⟨hmodule, hkind, hdeclaration⟩ := typeUnit?_eq_some_iff.1 h
  exact ⟨hkind, ⟨u.module, hmodule, rfl⟩, u.declaration, hdeclaration, rfl⟩

theorem forall₂_isUnitOf : List.Forall₂ (IsUnitOf g options)
    (g.entries.filter fun entry ↦ options.emits entry.2)
    ((typeUnits g options (Names.ofGraph g options)).map (·.toUnit options)) := by
  rw [List.forall₂_map_right_iff]
  exact (forall₂_typeUnits g options).imp fun _ _ ↦ isUnitOf_toUnit g options

/-- A file that is written differently from a module file without directories has other steps. -/
theorem same_modulePath_eq_false {module other : String}
    (hother : (modulePath other).components = [.normal (other ++ ".rs")]) (hne : module ≠ other) :
    (modulePath module).same (modulePath other) = false := by
  rw [Path.same, hother, beq_eq_false_iff_ne]
  intro h
  have htext : (modulePath module).text.toList = module.toList ++ ['.', 'r', 's'] :=
    String.toList_append
  have heq : module ++ ".rs" = other ++ ".rs" :=
    Path.text_eq_of_components_eq htext (by decide) (by decide) h
  exact hne ((String.append_left_inj _).1 heq)

theorem same_toUnit_eq_false {u : TypeUnit}
    (hu : u ∈ typeUnits g options (Names.ofGraph g options)) :
    (u.toUnit options).path.same (modulePath "mod") = false
      ∧ (u.toUnit options).path.same (modulePath aliasesModule) = false := by
  have hnodup := nodup_modules g options
  have hmodule := List.mem_map_of_mem (f := (·.module)) hu
  have hroot : u.module ≠ "mod" := fun h ↦
    (List.nodup_cons.1 hnodup).1 (List.mem_cons_of_mem _ (h ▸ hmodule))
  have haliases : u.module ≠ aliasesModule := fun h ↦
    (List.nodup_cons.1 hnodup.of_cons).1 (h ▸ hmodule)
  exact ⟨same_modulePath_eq_false (by decide +kernel) hroot,
    same_modulePath_eq_false (by decide +kernel) haliases⟩

end Code
end QueryBuilder
