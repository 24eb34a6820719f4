import QueryBuilder.Proofs.Project.AllOrNothing

/-!
# Where a run writes

A run changes files only where the paths of its units lead from the output directory.  That is one
place below the directory for every type that has no slash in its name, as no name of the query
language has.  Names are not checked, though, and the unit of a type `../Escape` is written next to
the directory.

## What is here

* `FileSystem.StaysOn` — where an operation fails, it changes no more than it would have.
* `Disk.Touches`, `Writes` — all that is different are new directories and files that given paths
  lead to; an action that may change only these.  It is kept by sequencing (`Writes.bind`), so what
  one unit may change (`writeUnit_writes`) adds up to what all units may (`writeUnits_writes`).
* `Inputs.isName_iff` — the path of a unit is one name exactly if its type has no slash.
* `generate_writes_units` — what a run may change, whether or not it succeeds.
* `generate_leaves_directory` — a schema with which it changes a file outside.
-/

set_option autoImplicit false

namespace QueryBuilder

/-! ## Changes on a disk -/

namespace Project
namespace Disk

/-- Writing a file, or failing to: a file stands where the path leads to, with any content, or
nothing is different. -/
inductive PutsFile (path : Path) (d : Disk) : Disk → Prop
  | none : PutsFile path d d
  | file {place : Place} {name? : Option String} (content : ByteArray)
      (hplace : d.locateNew path = .ok (place, name?)) (hfree : d.isDirectory place = false) :
      PutsFile path d (d.put place (.file content))

theorem PutsFile.ofWrite {d d' : Disk} {path : Path} {text : String}
    (h : d.write path text = .ok d') : PutsFile path d d' := by
  rw [write, bind_eq_ok_iff] at h
  obtain ⟨⟨place, name?⟩, hplace, h⟩ := h
  dsimp only at h
  split_ifs at h with hrefused
  obtain rfl := Except.ok.inj h
  rw [Bool.or_eq_true, not_or] at hrefused
  exact .file _ hplace (Bool.eq_false_iff.2 hrefused.2)

/-- All that is different are new directories and the files that the paths lead to. -/
structure Touches (paths : List Path) (before after : Disk) : Prop where
  keeps : before.Keeps after
  node : ∀ place, after.node? place = before.node? place
    ∨ before.node? place = none ∧ after.node? place = some .directory
    ∨ ∃ path ∈ paths, (∃ name?, after.locateNew path = .ok (place, name?))
        ∧ ∃ content, after.node? place = some (.file content)

namespace Touches

variable {paths : List Path} {d d' d'' : Disk}

theorem refl (d : Disk) : d.Touches paths d := ⟨.refl d, fun _ ↦ .inl rfl⟩

theorem mono {more : List Path} (h : d.Touches paths d') (hsub : paths ⊆ more) :
    d.Touches more d' := by
  refine ⟨h.keeps, fun place ↦ ?_⟩
  rcases h.node place with heq | hnew | ⟨path, hpath, hplace⟩
  · exact .inl heq
  · exact .inr (.inl hnew)
  · exact .inr (.inr ⟨path, hsub hpath, hplace⟩)

theorem ofAddsDirectories (h : d.AddsDirectories d') : d.Touches paths d' := by
  refine ⟨h.keeps, fun place ↦ ?_⟩
  rcases h.node place with heq | hnew
  · exact .inl heq
  · exact .inr (.inl hnew)

theorem ofPutsFile {path : Path} (h : PutsFile path d d') : d.Touches [path] d' := by
  cases h with
  | none => exact refl d
  | @file place name? content hplace hfree =>
    have hkeeps := Keeps.put hfree (.file content)
    have hne : place ≠ [] := by
      rintro rfl
      exact absurd hfree (by simp [isDirectory, node?])
    refine ⟨hkeeps, fun other ↦ ?_⟩
    by_cases heq : other = place
    · rw [heq]
      exact .inr (.inr ⟨path, List.mem_singleton_self _, ⟨name?, hkeeps.locateNew hplace⟩, content,
        node?_put_self d hne _⟩)
    · exact .inl (node?_put_of_ne d heq _)

/-- **Changes add up.**  What a path leads to is found there later too, and where a file or directory
stands none is new. -/
theorem trans (h : d.Touches paths d') (h' : d'.Touches paths d'') : d.Touches paths d'' := by
  refine ⟨h.keeps.trans h'.keeps, fun place ↦ ?_⟩
  rcases h'.node place with heq' | ⟨hnone', hnew'⟩ | hfile'
  · rw [heq']
    rcases h.node place with heq | hnew | ⟨path, hpath, ⟨name?, hplace⟩, hfile⟩
    · exact .inl heq
    · exact .inr (.inl hnew)
    · exact .inr (.inr ⟨path, hpath, ⟨name?, h'.keeps.locateNew hplace⟩, hfile⟩)
  · rcases h.node place with heq | ⟨-, hnew⟩ | ⟨-, -, -, content, hfile⟩
    · exact .inr (.inl ⟨heq ▸ hnone', hnew'⟩)
    · rw [hnew] at hnone'
      cases hnone'
    · rw [hfile] at hnone'
      cases hnone'
  · exact .inr (.inr hfile')

end Touches
end Disk

/-! ## Actions that write -/

/-- The operations work on a disk, and where one fails it changes no more than it would have: some
of the directories are new, or the file has some content. -/
structure FileSystem.StaysOn {σ : Type} (fs : FileSystem (StateM σ)) (disk : σ → Disk) : Prop
    extends fs.WorksOn disk where
  failedDirectories : ∀ path s e s', (fs.createDirectories path).run s = (.error e, s') →
    (disk s).AddsDirectories (disk s')
  failedWrite : ∀ path text s e s', (fs.writeText path text).run s = (.error e, s') →
    Disk.PutsFile path (disk s) (disk s')

/-- The file system of a disk stays on it. -/
theorem Disk.fileSystem_staysOn : Disk.fileSystem.StaysOn id where
  toWorksOn := Disk.fileSystem_worksOn
  failedDirectories path s e s' h := by
    obtain ⟨-, rfl⟩ := Prod.mk.inj h
    exact .makeDirectories s path
  failedWrite path text s e s' h := by
    simp only [Disk.fileSystem, Disk.attempt, StateT.run] at h
    cases hwrite : s.write path text with
    | error e' =>
      rw [hwrite] at h
      obtain ⟨-, rfl⟩ := Prod.mk.inj h
      exact .none
    | ok d =>
      rw [hwrite] at h
      cases (Prod.mk.inj h).1

/-- The action changes at most the files that the paths lead to, and adds directories. -/
def Writes {σ α : Type} (disk : σ → Disk) (paths : List Path) (action : Run (StateM σ) α) : Prop :=
  ∀ s r s', action.run.run s = (r, s') → (disk s).Touches paths (disk s')

namespace Writes

variable {σ α β : Type} {disk : σ → Disk} {paths : List Path}

theorem pure (a : α) : Writes disk paths (Pure.pure a) := by
  intro s r s' h
  obtain ⟨-, rfl⟩ := Prod.mk.inj h
  exact .refl _

theorem ofOperation {ε : Type} {operation : StateM σ (Except ε α)} (f : ε → Failure)
    (h : ∀ s r s', operation.run s = (r, s') → (disk s).Touches paths (disk s')) :
    Writes disk paths (ExceptT.mk do return (← operation).mapError f) := by
  intro s r s' hrun
  rw [run_mapError] at hrun
  obtain ⟨-, rfl⟩ := Prod.mk.inj hrun
  exact h s _ _ rfl

theorem mono {more : List Path} {action : Run (StateM σ) α} (h : Writes disk paths action)
    (hsub : paths ⊆ more) : Writes disk more action :=
  fun s r s' hrun ↦ (h s r s' hrun).mono hsub

/-- **A sequence changes what its parts do.** -/
theorem bind {action : Run (StateM σ) α} {next : α → Run (StateM σ) β}
    (h : Writes disk paths action) (hnext : ∀ a, Writes disk paths (next a)) :
    Writes disk paths (action >>= next) := by
  intro s r s' hrun
  rcases run_bind_cases hrun with ⟨e, hfirst, -⟩ | ⟨a, s₁, hfirst, hrest⟩
  · exact h s _ s' hfirst
  · exact (h s _ s₁ hfirst).trans (hnext a s₁ r s' hrest)

end Writes

section

variable {σ : Type} {fs : FileSystem (StateM σ)} {disk : σ → Disk} (hfs : fs.StaysOn disk)
include hfs

/-- Writing a unit, whether or not it succeeds, changes at most the file of the unit. -/
theorem writeUnit_writes (directory : Path) (u : Code.CodeUnit) :
    Writes disk [directory.join u.path] (writeUnit fs directory u) := by
  refine (Writes.ofOperation _ fun s r s' hrun ↦ Disk.Touches.ofPutsFile ?_).bind fun _ ↦ .pure _
  cases r with
  | error e => exact hfs.failedWrite _ _ s e s' hrun
  | ok a => exact .ofWrite (hfs.writeText _ _ s s' hrun)

/-- **Writing units changes at most their files**, however far it gets. -/
theorem writeUnits_writes (directory : Path) (units : List Code.CodeUnit) :
    Writes disk (units.map fun u ↦ directory.join u.path) (writeUnits fs directory units) := by
  induction units with
  | nil => exact .pure _
  | cons u rest ih =>
    have hunit := (writeUnit_writes hfs directory u).mono
      (List.cons_subset_cons _ (List.nil_subset (rest.map fun u ↦ directory.join u.path)))
    exact hunit.bind fun _ ↦ (ih.mono (List.subset_cons_self _ _)).bind fun _ ↦ .pure _

theorem writePlan_writes (directory : Path) (plan : Plan) :
    Writes disk (plan.output.units.map fun u ↦ directory.join u.path)
      (writePlan fs directory plan) := by
  have hdirectories (s : σ) (r : Except FileError Unit) (s' : σ)
      (hrun : (fs.createDirectories directory).run s = (r, s')) :
      (disk s).AddsDirectories (disk s') := by
    cases r with
    | error e => exact hfs.failedDirectories _ s e s' hrun
    | ok a =>
      have hadds := Disk.AddsDirectories.makeDirectories (disk s) directory
      rwa [hfs.createDirectories _ s s' hrun] at hadds
  exact (Writes.ofOperation _ fun s r s' hrun ↦ .ofAddsDirectories (hdirectories s r s' hrun)).bind
    fun _ ↦ (writeUnits_writes hfs directory _).bind fun _ ↦ .pure _

end

end Project

/-! ## Paths of units -/

namespace Code

open Schema

variable {g : TypeGraph} {options : Options}

/-- The path of a module is one name exactly if it has no slash. -/
theorem isName_iff_of_stem {p : Path} {stem : String} (h : p.text = stem ++ ".rs") :
    p.IsName ↔ '/' ∉ stem.toList := by
  have htext : p.text.toList = stem.toList ++ ['.', 'r', 's'] := by
    rw [h, String.toList_append]
    rfl
  rw [Path.isName_iff htext (by decide) (by decide), htext, List.mem_append]
  exact not_congr (or_iff_left (by decide))

/-- **The path of the unit of a type is one name exactly if the type has no slash in its name.** -/
theorem IsUnitOf.isName_iff {entry : TypeId × NamedType} {u : CodeUnit}
    (h : IsUnitOf g options entry u) (hentry : entry ∈ g.entries) :
    u.path.IsName ↔ '/' ∉ entry.2.name.toList := by
  obtain ⟨module, hmodule, hpath⟩ := h.path
  rw [isName_iff_of_stem hpath, slash_mem_module_iff hentry hmodule]

theorem exists_stem_of_mem_units {u : CodeUnit} (h : u ∈ (generate g options).units) :
    ∃ stem, u.path.text = stem ++ ".rs" := by
  have hpath := List.mem_map_of_mem (f := (·.path.text)) h
  rw [map_path_generate] at hpath
  obtain ⟨stem, -, heq⟩ := List.mem_map.1 hpath
  exact ⟨stem, heq.symm⟩

end Code

namespace Project

/-! ## The run -/

theorem Inputs.exists_stem {i : Inputs} {u : Code.CodeUnit} (hu : u ∈ i.output.units) :
    ∃ stem, u.path.text = stem ++ ".rs" := by
  have hpath : u.path ∈ i.output.units.map (·.path) := List.mem_map_of_mem hu
  rw [i.map_path_output] at hpath
  obtain ⟨u', hu', heq⟩ := List.mem_map.1 hpath
  exact heq ▸ Code.exists_stem_of_mem_units hu'

/-- **A path that is one name leads one place below the directory.** -/
theorem Inputs.eq_of_locateNew {i : Inputs} {u : Code.CodeUnit} (hu : u ∈ i.output.units)
    (hname : u.path.IsName) {d : Disk} {directory : Path} {place : Place} {name? : Option String}
    (h : d.locateNew (directory.join u.path) = .ok (place, name?)) :
    ∃ parent, d.follow directory = .ok parent ∧ place = parent ++ [u.path.text] := by
  obtain ⟨stem, hstem⟩ := i.exists_stem hu
  have hfile : IsFileName u.path.text :=
    hstem ▸ Code.isFileName_append_rs ((Code.isName_iff_of_stem hstem).1 hname)
  obtain ⟨parent, -, hparent, -, hplace, -⟩ := Disk.locateNew_join_eq_ok hfile h
  exact ⟨parent, hparent, hplace⟩

/-- **A run changes the files of its units, and no others.**  Whether or not it succeeds, either the
disk is as before, or the files of a project say what is generated, and all that is different are
new directories and files that the paths of units lead to from the output directory.  The path of a
unit is one name if it is that of the root or of the aliases, and for the unit of a type exactly if
the type has no slash in its name.  A path that is one name leads one place below the directory. -/
theorem generate_writes_units {σ : Type} {fs : FileSystem (StateM σ)} {disk : σ → Disk}
    (hfs : fs.StaysOn disk) (root directory : Path) (config? : Option Path) (s s' : σ)
    (r : Except Failure Summary)
    (hrun : (generate fs root directory config?).run.run s = (r, s')) :
    disk s' = disk s ∨ ∃ (i : Inputs) (units : List Code.CodeUnit),
      IsConfig (disk s) root config? i.config
        ∧ i.SaidOn (disk s)
        ∧ i.output.units.map (·.path) = ⟨"mod.rs"⟩ :: ⟨"aliases.rs"⟩ :: units.map (·.path)
        ∧ (⟨"mod.rs"⟩ : Path).IsName ∧ (⟨"aliases.rs"⟩ : Path).IsName
        ∧ List.Forall₂
          (fun entry u ↦ Code.IsUnitOf i.merged.1 i.configuration.codeOptions entry u
            ∧ (u.path.IsName ↔ '/' ∉ entry.2.name.toList))
          (i.merged.1.entries.filter fun entry ↦ i.configuration.codeOptions.emits entry.2) units
        ∧ ∀ place, (disk s').node? place = (disk s).node? place
          ∨ (disk s).node? place = none ∧ (disk s').node? place = some .directory
          ∨ ∃ u ∈ i.output.units,
              (∃ content, (disk s').node? place = some (.file content))
                ∧ (∃ name?, (disk s').locateNew (directory.join u.path) = .ok (place, name?))
                ∧ (u.path.IsName → ∃ parent, (disk s').follow directory = .ok parent
                  ∧ place = parent ++ [u.path.text]) := by
  rcases run_bind_cases hrun with ⟨e, hprepare, -⟩ | ⟨plan, s₁, hprepare, hwrite⟩
  · exact .inl (prepare_reads hfs.toWorksOn root config? s _ s' hprepare).1
  · obtain ⟨hdisk, hplan⟩ := prepare_reads hfs.toWorksOn root config? s _ s₁ hprepare
    obtain ⟨i, hconfig, hsaid, rfl⟩ := hplan plan rfl
    have htouches := writePlan_writes hfs directory i.plan s₁ r s' hwrite
    rw [hdisk] at htouches
    refine .inr ⟨i, _, hconfig, hsaid, i.map_path_output, ⟨"mod.rs", by decide⟩,
      ⟨"aliases.rs", by decide⟩, ?_, fun place ↦ ?_⟩
    · have hunits := Code.forall₂_isUnitOf i.merged.1 i.configuration.codeOptions
      refine List.forall₂_iff_zip.2 ⟨hunits.length_eq, fun hmem ↦ ?_⟩
      have hof := (List.forall₂_iff_zip.1 hunits).2 hmem
      exact ⟨hof, hof.isName_iff (List.mem_filter.1 (List.of_mem_zip hmem).1).1⟩
    · rcases htouches.node place with hsame | hnew | ⟨path, hpath, ⟨name?, hplace⟩, hfile⟩
      · exact .inl hsame
      · exact .inr (.inl hnew)
      · obtain ⟨u, hu, rfl⟩ := List.mem_map.1 hpath
        exact .inr (.inr ⟨u, hu, hfile, ⟨name?, hplace⟩, fun hname ↦
          Inputs.eq_of_locateNew hu hname hplace⟩)

theorem generate_writes_units_events :
    ∃ summary after,
      (generate Disk.fileSystem ⟨"app"⟩ ⟨"app/generated"⟩ (some ⟨"app/.gryphin"⟩)).run.run
          eventsDisk = (.ok summary, after)
        ∧ ∀ place, after.node? place = eventsDisk.node? place
          ∨ after.node? place = some .directory
          ∨ place ∈ [["app", "generated", "mod.rs"], ["app", "generated", "aliases.rs"],
              ["app", "generated", "event.rs"]] := by
  have heval : (fun run : Except Failure Summary × Disk ↦
        (run.1.toOption.isSome, (run.2.follow ⟨"app/generated"⟩).toOption))
      ((generate Disk.fileSystem ⟨"app"⟩ ⟨"app/generated"⟩ (some ⟨"app/.gryphin"⟩)).run.run
        eventsDisk) = (true, some ["app", "generated"]) := by
    decide +kernel
  have hpaths : eventsInputs.output.units.map (·.path)
      = [⟨"mod.rs"⟩, ⟨"aliases.rs"⟩, ⟨"event.rs"⟩] := by
    decide +kernel
  have hnames : ∀ path ∈ [(⟨"mod.rs"⟩ : Path), ⟨"aliases.rs"⟩, ⟨"event.rs"⟩],
      path.components = [.normal path.text] := by
    decide
  rcases hrun : (generate Disk.fileSystem ⟨"app"⟩ ⟨"app/generated"⟩
    (some ⟨"app/.gryphin"⟩)).run.run eventsDisk with ⟨r, after⟩
  rw [hrun] at heval
  obtain ⟨hok, hfollow⟩ := Prod.mk.inj heval
  cases r with
  | error e => cases hok
  | ok summary =>
    refine ⟨summary, after, rfl, fun place ↦ ?_⟩
    rcases generate_writes_units Disk.fileSystem_staysOn ⟨"app"⟩ ⟨"app/generated"⟩
      (some ⟨"app/.gryphin"⟩) eventsDisk after (.ok summary) hrun with
      hsame | ⟨i, -, hconfig, hsaid, -, -, -, -, hplaces⟩
    · exact .inl (congrArg (Disk.node? · place) hsame)
    · obtain rfl : i = eventsInputs := hsaid.unique eventsInputs_saidOn hconfig
      rcases hplaces place with hsame | ⟨-, hnew⟩ | ⟨u, hu, -, -, hbelow⟩
      · exact .inl hsame
      · exact .inr (.inl hnew)
      · have hpath : u.path ∈ [(⟨"mod.rs"⟩ : Path), ⟨"aliases.rs"⟩, ⟨"event.rs"⟩] :=
          hpaths ▸ List.mem_map_of_mem hu
        obtain ⟨parent, hparent, rfl⟩ := hbelow ⟨_, hnames u.path hpath⟩
        obtain rfl := Except.ok.inj (hparent.symm.trans (toOption_eq_some_iff.1 hfollow))
        refine .inr (.inr ?_)
        exact List.mem_map_of_mem (f := fun path : Path ↦ ["app", "generated", path.text]) hpath

/-- A schema with an enum that is called like a path out of the directory. -/
def escapeSchema : Json :=
  .object [("types", .array [
    .object [("kind", .string "ENUM"), ("name", .string "../Escape"), ("enumValues", .array [])]])]

/-- A project with that schema. -/
def escapeDisk : Disk where
  nodes := [
    (["app"], .directory),
    (["app", ".gryphin"], .file (Json.object [
      ("schema", .object [("path", .string "schema.json")])]).print.toUTF8),
    (["app", "schema.json"], .file escapeSchema.print.toUTF8)]
  workingDirectory := []

/-- **A run may write next to its output directory.**  The schema is accepted, the path of the unit
of its enum is not one name, and the run writes a file where the project is. -/
theorem generate_leaves_directory :
    (∃ g, Schema.ofText escapeSchema.print = .ok g
      ∧ ∃ u ∈ (Code.generate g .default).units, u.path = ⟨"../escape.rs"⟩ ∧ ¬ u.path.IsName)
      ∧ ∃ summary after content,
        (generate Disk.fileSystem ⟨"app"⟩ ⟨"app/generated"⟩ none).run.run escapeDisk
            = (.ok summary, after)
          ∧ after.follow ⟨"app/generated"⟩ = .ok ["app", "generated"]
          ∧ escapeDisk.node? ["app", "escape.rs"] = none
          ∧ after.node? ["app", "escape.rs"] = some (.file content) := by
  constructor
  · have hgraph : ((Schema.ofText escapeSchema.print).toOption.map fun g ↦
        (Code.generate g .default).units.map (·.path))
        = some [⟨"mod.rs"⟩, ⟨"aliases.rs"⟩, ⟨"../escape.rs"⟩] := by
      decide +kernel
    obtain ⟨g, hg, hpaths⟩ := Option.map_eq_some_iff.1 hgraph
    have hmem : (⟨"../escape.rs"⟩ : Path) ∈ (Code.generate g .default).units.map (·.path) := by
      rw [hpaths]
      decide
    obtain ⟨u, hu, hpath⟩ := List.mem_map.1 hmem
    refine ⟨g, toOption_eq_some_iff.1 hg, u, hu, hpath, ?_⟩
    rw [hpath]
    rintro ⟨name, hname⟩
    cases hname
  · have heval : (fun run : Except Failure Summary × Disk ↦
          (run.1.toOption.isSome, (run.2.follow ⟨"app/generated"⟩).toOption,
            (run.2.node? ["app", "escape.rs"]).isSome, run.2.isDirectory ["app", "escape.rs"]))
        ((generate Disk.fileSystem ⟨"app"⟩ ⟨"app/generated"⟩ none).run.run escapeDisk)
      = (true, some ["app", "generated"], true, false) := by
      decide +kernel
    rcases hrun : (generate Disk.fileSystem ⟨"app"⟩ ⟨"app/generated"⟩ none).run.run escapeDisk with
      ⟨r, after⟩
    rw [hrun] at heval
    simp only [Prod.mk.injEq] at heval
    obtain ⟨hok, hfollow, hsome, hfile⟩ := heval
    obtain ⟨summary, rfl⟩ : ∃ summary, r = .ok summary := by
      obtain ⟨summary, hsummary⟩ := Option.isSome_iff_exists.1 hok
      exact ⟨summary, toOption_eq_some_iff.1 hsummary⟩
    obtain ⟨node, hnode⟩ := Option.isSome_iff_exists.1 hsome
    cases node with
    | directory =>
      rw [Disk.isDirectory_iff.2 hnode] at hfile
      cases hfile
    | file content =>
      exact ⟨summary, after, content, rfl, toOption_eq_some_iff.1 hfollow, by decide, hnode⟩

end Project
end QueryBuilder
