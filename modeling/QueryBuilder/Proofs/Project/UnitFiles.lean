import QueryBuilder.Proofs.Code.Units
import QueryBuilder.Proofs.Name.Separator
import QueryBuilder.Proofs.Project.Disk

/-!
# The files of units

Units are written below one directory, each to the file that its path says.

* `slash_mem_module_iff` — a module has a slash exactly if its type has.
* `IsUnitOf.isFileName`, `isFileName_of_mem_units` — without slashes the path of a unit is the name
  of a file in the directory.
* `CodeUnit.LeavesAlone` — writing a unit changes nothing about the file of another.
* `units_agree_with_root` — what is generated, whatever types are called.
* `root_overwritten` — distinct paths may lead to one file: the unit of a type `./Mod` is written
  over the root.
-/

set_option autoImplicit false

namespace QueryBuilder
namespace Code

open Schema Project

/-! ## Slashes -/

theorem Names.mem_moduleBase_iff {d : Char} (hd : Name.IsSeparator d) {t : NamedType} :
    d ∈ (moduleBase t).toList ↔ d ∈ t.name.toList := by
  rw [moduleBase]
  split
  · exact Name.mem_snake_iff hd
  · rw [String.toList_append, List.mem_append, Name.mem_snake_iff hd]
    exact or_iff_left hd.not_mem_underscore

/-- A stem without slashes makes the name of a file. -/
theorem isFileName_append_rs {stem : String} (h : '/' ∉ stem.toList) :
    IsFileName (stem ++ ".rs") := by
  have hlength : 2 < (stem ++ ".rs").length := by
    rw [String.length_append]
    exact Nat.lt_of_lt_of_le (by decide) (Nat.le_add_left _ _)
  have hne {other : String} (hother : other.length ≤ 2) : stem ++ ".rs" ≠ other :=
    fun heq ↦ absurd hlength (by rw [heq]; omega)
  refine ⟨hne (by decide), fun hslash ↦ ?_, ?_⟩
  · rw [String.toList_append, List.mem_append] at hslash
    rcases hslash with hslash | hslash
    · exact h hslash
    · exact absurd hslash (by decide)
  · rw [Disk.isPointName, beq_false_of_ne (hne (by decide)), beq_false_of_ne (hne (by decide)),
      Bool.or_self]

variable {g : TypeGraph} {options : Options}

/-- The module of a type has the slashes of the type. -/
theorem slash_mem_module_iff {entry : TypeId × NamedType} (hentry : entry ∈ g.entries)
    {module : String}
    (h : ((Names.ofGraph g options).get? entry.1).bind (·.module?) = some module) :
    '/' ∈ module.toList ↔ '/' ∈ entry.2.name.toList := by
  obtain ⟨n, rfl⟩ := Names.exists_module_eq_candidate g options
    (TypeGraph.mem_entries_iff.1 hentry) h
  rw [Name.Scope.mem_candidate_iff Name.isSeparator_slash,
    Names.mem_moduleBase_iff Name.isSeparator_slash]

/-- **The unit of a type without slashes in its name is called like a file.** -/
theorem IsUnitOf.isFileName {entry : TypeId × NamedType} {u : CodeUnit}
    (h : IsUnitOf g options entry u) (hentry : entry ∈ g.entries)
    (hslash : '/' ∉ entry.2.name.toList) : IsFileName u.path.text := by
  obtain ⟨module, hmodule, hpath⟩ := h.path
  rw [hpath]
  exact isFileName_append_rs (mt (slash_mem_module_iff hentry hmodule).1 hslash)

/-- Where no type has a slash in its name, all units are called like files. -/
theorem isFileName_of_mem_units (hslash : ∀ t ∈ g.types, '/' ∉ t.name.toList) {u : CodeUnit}
    (hu : u ∈ (generate g options).units) : IsFileName u.path.text := by
  rcases List.mem_cons.1 hu with rfl | hu
  · exact isFileName_append_rs (by decide)
  · rcases List.mem_cons.1 hu with rfl | hu
    · exact isFileName_append_rs (by decide)
    · obtain ⟨unit, hunit, rfl⟩ := List.mem_map.1 hu
      obtain ⟨id, t, hget, hunit⟩ := mem_typeUnits_iff.1 hunit
      exact (isUnitOf_toUnit g options hunit).isFileName (TypeGraph.mem_entries_iff.2 hget)
        (hslash t (List.mem_of_getElem? hget))

/-! ## All files -/

/-- Writing the one unit changes nothing about the file of the other, on whichever disk and below
whichever directory the two are. -/
def CodeUnit.LeavesAlone (u w : CodeUnit) : Prop :=
  ∀ (d d' : Disk) (directory : Path), d.write (directory.join u.path) u.content = .ok d' →
    ∀ place node, d.locate (directory.join w.path) = .ok (place, node) →
      d'.locate (directory.join w.path) = .ok (place, node)

/-- **Files of different names leave each other alone.** -/
theorem leavesAlone_of_same_eq_false {u w : CodeUnit} (hu : IsFileName u.path.text)
    (hw : IsFileName w.path.text) (h : u.path.same w.path = false) : u.LeavesAlone w := by
  have hne : u.path.text ≠ w.path.text := by
    intro heq
    rw [Path.same, Path.components, Path.components, heq, beq_self_eq_true] at h
    cases h
  exact fun _ _ _ hwrite _ _ hlocate ↦ Disk.locate_of_write_join hu hw hne hwrite hlocate

/-- **The files of a graph agree with their root.**  They are the root, the aliases and one unit for
each type that is no scalar and not left out, in the order of registration.  No two of them have one
path, and no unit of a type has that of the root or of the aliases, however paths are written.  The
root declares and re-exports the aliases and the units of types, each once and in order.  The unit
of a type without slashes in its name leaves the files of the root and of the aliases alone. -/
theorem units_agree_with_root (g : TypeGraph) (options : Options) :
    ∃ (root aliases : CodeUnit) (units : List CodeUnit) (stems : List String),
      (generate g options).units = root :: aliases :: units
        ∧ root.kind = .module ∧ root.path.text = "mod.rs"
        ∧ aliases.kind = .aliases ∧ aliases.path.text = "aliases.rs"
        ∧ List.Forall₂
          (fun entry u ↦ IsUnitOf g options entry u
            ∧ u.path.same root.path = false ∧ u.path.same aliases.path = false
            ∧ ('/' ∉ entry.2.name.toList → u.LeavesAlone root ∧ u.LeavesAlone aliases))
          (g.entries.filter fun entry ↦ entry.2.kind != .scalar
            && (options.includeIntrospection || !entry.2.isIntrospection)) units
        ∧ units.map (·.path.text) = stems.map (· ++ ".rs")
        ∧ ((generate g options).units.map (·.path.text)).Nodup
        ∧ ("aliases" :: stems).Nodup
        ∧ root.content = rootText options.header ("aliases" :: stems) := by
  have hroot : (modulePath "mod").text = "mod.rs" := by decide +kernel
  have haliases : (modulePath aliasesModule).text = "aliases.rs" := by decide +kernel
  have hpaths : ((typeUnits g options (Names.ofGraph g options)).map (·.toUnit options)).map
        (·.path.text)
      = ((typeUnits g options (Names.ofGraph g options)).map (·.module)).map (· ++ ".rs") := by
    rw [List.map_map, List.map_map]
    rfl
  refine ⟨rootUnit options (typeUnits g options (Names.ofGraph g options)),
    aliasesUnit g options (Names.ofGraph g options),
    (typeUnits g options (Names.ofGraph g options)).map (TypeUnit.toUnit options),
    (typeUnits g options (Names.ofGraph g options)).map TypeUnit.module,
    rfl, rfl, hroot, rfl, haliases, ?_, hpaths, nodup_paths g options,
    (nodup_modules g options).of_cons, unitText_rootLines options _⟩
  have hunits := forall₂_isUnitOf g options
  refine List.forall₂_iff_zip.2 ⟨hunits.length_eq, fun hmem ↦ ?_⟩
  obtain ⟨hentry, hunit⟩ := List.of_mem_zip hmem
  obtain ⟨unit, htype, rfl⟩ := List.mem_map.1 hunit
  obtain ⟨hnotRoot, hnotAliases⟩ := same_toUnit_eq_false g options htype
  have hof := (List.forall₂_iff_zip.1 hunits).2 hmem
  refine ⟨hof, hnotRoot, hnotAliases, fun hslash ↦ ?_⟩
  have hname := hof.isFileName (List.mem_filter.1 hentry).1 hslash
  exact ⟨leavesAlone_of_same_eq_false hname (isFileName_append_rs (by decide)) hnotRoot,
    leavesAlone_of_same_eq_false hname (isFileName_append_rs (by decide)) hnotAliases⟩

/-- An enum that is called like a path to the root. -/
def pathGraph : TypeGraph :=
  ⟨[⟨"./Mod", none, .enum []⟩], ⟨none, none, none⟩⟩

/-- A disk with an output directory. -/
def outputDisk : Disk :=
  ⟨[(["out"], .directory)], []⟩

/-- Two spellings of one file. -/
theorem write_write_outputDisk (first second : String) : (do
      let d ← outputDisk.write ⟨"out/mod.rs"⟩ first
      let d ← d.write ⟨"out/./mod.rs"⟩ second
      return d.node? ["out", "mod.rs"]) = .ok (some (.file second.toUTF8)) :=
  rfl

/-- **A unit may overwrite the root.**  The paths of these units are distinct, and still the file of
the root holds the unit of the enum after both have been written. -/
theorem root_overwritten : ∃ root aliases u : CodeUnit,
    (generate pathGraph .default).units = [root, aliases, u]
      ∧ root.kind = .module ∧ root.path = ⟨"mod.rs"⟩
      ∧ u.kind = .enum ∧ u.path = ⟨"./mod.rs"⟩ ∧ u.content ≠ root.content
      ∧ (do
        let d ← outputDisk.write ((⟨"out"⟩ : Path).join root.path) root.content
        let d ← d.write ((⟨"out"⟩ : Path).join u.path) u.content
        return d.node? ["out", "mod.rs"]) = .ok (some (.file u.content.toUTF8)) := by
  have hpaths : (generate pathGraph .default).units.map (fun u ↦ (u.kind, u.path))
      = [(.module, ⟨"mod.rs"⟩), (.aliases, ⟨"aliases.rs"⟩), (.enum, ⟨"./mod.rs"⟩)] := by
    decide +kernel
  have hcontents : ((generate pathGraph .default).units.map (·.content)).Nodup := by
    decide +kernel
  have hlength := congrArg List.length hpaths
  rw [List.length_map] at hlength
  obtain ⟨root, aliases, u, hunits⟩ := List.length_eq_three.1 hlength
  rw [hunits] at hpaths hcontents ⊢
  simp only [List.map_cons, List.map_nil, List.cons.injEq, Prod.mk.injEq, and_true] at hpaths
  obtain ⟨⟨hroot, hrootPath⟩, -, hkind, hpath⟩ := hpaths
  refine ⟨root, aliases, u, rfl, hroot, hrootPath, hkind, hpath, fun heq ↦ ?_, ?_⟩
  · refine (List.nodup_cons.1 hcontents).1 ?_
    simp [heq]
  · rw [hrootPath, hpath]
    exact write_write_outputDisk root.content u.content

end Code
end QueryBuilder
