import QueryBuilder.Json.Printer
import QueryBuilder.Proofs.Project.Reading
import QueryBuilder.Proofs.Project.UnitFiles
import QueryBuilder.Proofs.Schema.Sound

/-!
# A run writes everything or nothing

A generation run that fails before it starts to write leaves the disk as it was, and one that
succeeds has written every unit, each to its own file.

* `writeUnits_written` — what writing units does, from one unit to the next.
* `Inputs.isFileName` — where types have names, the paths of units are file names.
* `generate_all_or_nothing` — what a run does, whatever the disk, the project directory, the output
  directory and the configuration file are, and whatever reads fail.

Units do not overwrite each other, as no two of them have one path.  They stay in the output
directory, because a module is called like a word.
-/

set_option autoImplicit false

namespace QueryBuilder

/-! ## Files of units -/

namespace Code

theorem Output.map_path_appendToAliases (o : Output) (source : String) :
    (o.appendToAliases source).units.map (·.path) = o.units.map (·.path) := by
  rw [appendToAliases, List.map_map]
  refine List.map_congr_left fun u _ ↦ ?_
  rw [Function.comp_apply]
  split_ifs <;> rfl

/-- Appending changes no path. -/
theorem Output.map_path_foldl (o : Output) (sources : List String) :
    (sources.foldl appendToAliases o).units.map (·.path) = o.units.map (·.path) :=
  List.foldlRecOn (motive := fun o' : Output ↦ o'.units.map (·.path) = o.units.map (·.path)) sources
    appendToAliases rfl fun o' h source _ ↦ (o'.map_path_appendToAliases source).trans h

end Code

namespace Project

theorem Inputs.map_path_output (i : Inputs) : i.output.units.map (·.path)
    = (Code.generate i.merged.1 i.configuration.codeOptions).units.map (·.path) :=
  Code.Output.map_path_foldl _ i.sources

theorem Inputs.nodup_paths (i : Inputs) : (i.output.units.map (·.path.text)).Nodup := by
  have hmap := congrArg (List.map Path.text) i.map_path_output
  rw [List.map_map, List.map_map] at hmap
  exact (congrArg List.Nodup hmap).mpr (Code.nodup_paths _ _)

theorem slash_not_mem_of_isName {name : String} (h : Name.isName name = true) :
    '/' ∉ name.toList :=
  fun hmem ↦ absurd (Name.isNameChar_of_isName h hmem) (by decide)

/-- **Where types have names, the paths of units are file names.** -/
theorem Inputs.isFileName {i : Inputs} (hnames : ∀ t ∈ i.graph.types, Name.isName t.name = true)
    {u : Code.CodeUnit} (hu : u ∈ i.output.units) : IsFileName u.path.text := by
  have hslash : ∀ t ∈ i.merged.1.types, '/' ∉ t.name.toList := by
    intro t ht
    have hname := List.mem_map_of_mem (f := (·.name)) ht
    rw [Inputs.merged, Schema.TypeGraph.names_merge] at hname
    obtain ⟨t', ht', heq⟩ := List.mem_map.1 hname
    exact slash_not_mem_of_isName (heq ▸ hnames t' ht')
  have hpath : u.path ∈ i.output.units.map (·.path) := List.mem_map_of_mem hu
  rw [i.map_path_output] at hpath
  obtain ⟨u', hu', heq⟩ := List.mem_map.1 hpath
  exact heq ▸ Code.isFileName_of_mem_units hslash hu'

/-! ## Writing -/

/-- The failure says that a file or directory could not be written. -/
def Failure.IsWrite (e : Failure) : Prop :=
  ∃ path e', e = .write path e'

section

variable {σ : Type} {fs : FileSystem (StateM σ)} {disk : σ → Disk}

theorem of_mapError_eq_error {ε α : Type} {x : Except ε α} {f : ε → Failure} {e : Failure}
    (h : x.mapError f = .error e) : ∃ e', e = f e' := by
  cases x with
  | error e' => exact ⟨e', (Except.error.inj h).symm⟩
  | ok a => cases h

/-- Writing a unit fails with a write failure, or it has written the unit. -/
theorem writeUnit_cases {directory : Path} {u : Code.CodeUnit} {s s' : σ} {r : Except Failure Path}
    (h : (writeUnit fs directory u).run.run s = (r, s')) :
    (∃ e : Failure, e.IsWrite ∧ r = .error e)
      ∨ r = .ok (directory.join u.path)
        ∧ (fs.writeText (directory.join u.path) u.content).run s = (.ok (), s') := by
  rcases run_bind_cases h with ⟨e, hwrite, rfl⟩ | ⟨a, s₁, hwrite, hrest⟩
  · obtain ⟨e', rfl⟩ := of_mapError_eq_error (Prod.mk.inj hwrite).1
    exact .inl ⟨_, ⟨_, e', rfl⟩, rfl⟩
  · obtain ⟨hok, rfl⟩ := Prod.mk.inj hwrite
    obtain ⟨rfl, rfl⟩ := Prod.mk.inj hrest
    exact .inr ⟨rfl, Prod.ext (mapError_eq_ok_iff.1 hok) rfl⟩

/-- **A step of writing**: the first unit cannot be written, or the rest is written after it. -/
theorem writeUnits_cons_cases {directory : Path} {u : Code.CodeUnit} {rest : List Code.CodeUnit}
    {s s' : σ} {r : Except Failure (List Path)}
    (h : (writeUnits fs directory (u :: rest)).run.run s = (r, s')) :
    (∃ e : Failure, e.IsWrite ∧ r = .error e)
      ∨ ∃ s₁ r', (fs.writeText (directory.join u.path) u.content).run s = (.ok (), s₁)
        ∧ (writeUnits fs directory rest).run.run s₁ = (r', s')
        ∧ r = r'.map (directory.join u.path :: ·) := by
  rcases run_bind_cases h with ⟨e, hunit, rfl⟩ | ⟨path, s₁, hunit, hrest⟩
  · rcases writeUnit_cases hunit with ⟨e', he', heq⟩ | ⟨heq, -⟩
    · exact .inl ⟨e', he', congrArg Except.error (Except.error.inj heq)⟩
    · cases heq
  · rcases writeUnit_cases hunit with ⟨e', -, heq⟩ | ⟨heq, hwrite⟩
    · cases heq
    · obtain rfl := Except.ok.inj heq
      refine .inr ⟨s₁, ?_⟩
      rcases run_bind_cases hrest with ⟨e, hunits, rfl⟩ | ⟨paths, s₂, hunits, hpure⟩
      · exact ⟨_, hwrite, hunits, rfl⟩
      · obtain ⟨rfl, rfl⟩ := Prod.mk.inj hpure
        exact ⟨_, hwrite, hunits, rfl⟩

/-- Writing units fails with a write failure, or it answers all their paths. -/
theorem writeUnits_cases {directory : Path} {units : List Code.CodeUnit} {s s' : σ}
    {r : Except Failure (List Path)}
    (h : (writeUnits fs directory units).run.run s = (r, s')) :
    (∃ e : Failure, e.IsWrite ∧ r = .error e)
      ∨ r = .ok (units.map fun u ↦ directory.join u.path) := by
  induction units generalizing s r with
  | nil => exact .inr (Prod.mk.inj h).1.symm
  | cons u rest ih =>
    rcases writeUnits_cons_cases h with hfail | ⟨s₁, r', -, hrest, rfl⟩
    · exact .inl hfail
    · rcases ih hrest with ⟨e, he, rfl⟩ | rfl
      · exact .inl ⟨e, he, rfl⟩
      · exact .inr rfl

/-- **Written units stand in the directory**, each in its own file. -/
theorem writeUnits_written (hfs : fs.WorksOn disk) {directory : Path} {units : List Code.CodeUnit}
    (hnames : ∀ u ∈ units, IsFileName u.path.text) (hnodup : (units.map (·.path.text)).Nodup)
    {s s' : σ} {paths : List Path}
    (h : (writeUnits fs directory units).run.run s = (.ok paths, s')) :
    Disk.Written directory (units.map fun u ↦ (u.path.text, u.content)) (disk s) (disk s') := by
  induction units generalizing s paths with
  | nil =>
    obtain ⟨-, rfl⟩ := Prod.mk.inj h
    exact .nil directory (disk s)
  | cons u rest ih =>
    rcases writeUnits_cons_cases h with ⟨e, -, heq⟩ | ⟨s₁, r', hwrite, hrest, heq⟩
    · cases heq
    · cases r' with
      | error e => cases heq
      | ok paths' =>
        obtain ⟨hnew, hnodup⟩ := List.nodup_cons.1 hnodup
        refine .cons (hnames u List.mem_cons_self) ?_ (hfs.writeText _ _ _ _ hwrite)
          (ih (fun v hv ↦ hnames v (List.mem_cons_of_mem _ hv)) hnodup hrest)
        rw [List.map_map]
        exact hnew

/-- **Writing a plan** fails with a write failure, or the directory is there and all units have been
written into it. -/
theorem writePlan_cases {directory : Path} {plan : Plan} {s s' : σ} {r : Except Failure Summary}
    (h : (writePlan fs directory plan).run.run s = (r, s')) :
    (∃ e : Failure, e.IsWrite ∧ r = .error e)
      ∨ ∃ s₁ paths, (fs.createDirectories directory).run s = (.ok (), s₁)
        ∧ (writeUnits fs directory plan.output.units).run.run s₁ = (.ok paths, s')
        ∧ r = .ok ⟨plan.config, plan.output.units.map fun u ↦ directory.join u.path, plan.skipped,
          plan.appended⟩ := by
  rcases run_bind_cases h with ⟨e, hcreate, rfl⟩ | ⟨a, s₁, hcreate, hrest⟩
  · obtain ⟨e', rfl⟩ := of_mapError_eq_error (Prod.mk.inj hcreate).1
    exact .inl ⟨_, ⟨_, e', rfl⟩, rfl⟩
  · obtain ⟨hok, rfl⟩ := Prod.mk.inj hcreate
    rcases run_bind_cases hrest with ⟨e, hunits, rfl⟩ | ⟨paths, s₂, hunits, hpure⟩
    · rcases writeUnits_cases hunits with ⟨e', he', heq⟩ | heq
      · exact .inl ⟨e', he', congrArg Except.error (Except.error.inj heq)⟩
      · cases heq
    · obtain ⟨rfl, rfl⟩ := Prod.mk.inj hpure
      rcases writeUnits_cases hunits with ⟨e', -, heq⟩ | heq
      · cases heq
      · obtain rfl := Except.ok.inj heq
        exact .inr ⟨_, _, Prod.ext (mapError_eq_ok_iff.1 hok) rfl, hunits, rfl⟩

end

/-! ## The run -/

/-- **A run writes everything or nothing.**  A run that fails without having failed to write leaves
the disk as it was.  A run that succeeds answers the paths of all units in order; and where the
types of the schema have names, each of these files holds its unit, and nothing else is different
but for directories that were missing. -/
theorem generate_all_or_nothing {σ : Type} {fs : FileSystem (StateM σ)} {disk : σ → Disk}
    (hfs : fs.WorksOn disk) (root directory : Path) (config? : Option Path) (s s' : σ)
    (r : Except Failure Summary)
    (hrun : (generate fs root directory config?).run.run s = (r, s')) :
    (∀ e, r = .error e → (∀ path e', e ≠ .write path e') → disk s' = disk s)
      ∧ ∀ summary, r = .ok summary → ∃ i : Inputs,
        IsConfig (disk s) root config? i.config
          ∧ i.SaidOn (disk s)
          ∧ summary = ⟨i.config, i.output.units.map fun u ↦ directory.join u.path,
              i.merged.2.skipped, i.files.length⟩
          ∧ ((∀ t ∈ i.graph.types, Name.isName t.name = true) →
            (∀ u ∈ i.output.units, ∃ place,
              (disk s').locate (directory.join u.path) = .ok (place, .file u.content.toUTF8))
            ∧ ∀ place, (∀ u ∈ i.output.units, ∀ node,
                (disk s').locate (directory.join u.path) ≠ .ok (place, node)) →
              (disk s').node? place = (disk s).node? place
                ∨ (disk s).node? place = none ∧ (disk s').node? place = some .directory) := by
  rcases run_bind_cases hrun with ⟨e, hprepare, rfl⟩ | ⟨plan, s₁, hprepare, hwrite⟩
  · refine ⟨fun _ _ _ ↦ (prepare_reads hfs root config? s _ s' hprepare).1, fun summary h ↦ ?_⟩
    cases h
  · obtain ⟨hdisk, hplan⟩ := prepare_reads hfs root config? s _ s₁ hprepare
    obtain ⟨i, hconfig, hsaid, rfl⟩ := hplan plan rfl
    rcases writePlan_cases hwrite with ⟨e, ⟨path, e', rfl⟩, rfl⟩ | ⟨s₂, paths, hcreate, hunits, rfl⟩
    · refine ⟨fun e he hnot ↦ ?_, fun summary h ↦ by cases h⟩
      exact absurd (Except.error.inj he).symm (hnot path e')
    · refine ⟨fun e he ↦ (by cases he), fun summary hsummary ↦ ⟨i, hconfig, hsaid,
        (Except.ok.inj hsummary).symm, fun hnames ↦ ?_⟩⟩
      have hmake := hfs.createDirectories directory s₁ s₂ hcreate
      have hadds := Disk.AddsDirectories.makeDirectories (disk s₁) directory
      rw [hmake, hdisk] at hadds
      have hwritten := writeUnits_written hfs (fun u hu ↦ Inputs.isFileName hnames hu)
        i.nodup_paths hunits
      have hfile {u : Code.CodeUnit} (hu : u ∈ i.output.units) :=
        hwritten.file (u.path.text, u.content) (List.mem_map_of_mem hu)
      refine ⟨fun u hu ↦ ?_, fun place hplace ↦ ?_⟩
      · obtain ⟨parent, -, hlocate⟩ := hfile hu
        exact ⟨_, hlocate⟩
      · rw [hwritten.frame place]
        · exact hadds.node place
        · rintro f hf parent hparent rfl
          obtain ⟨u, hu, rfl⟩ := List.mem_map.1 hf
          obtain ⟨parent', hparent', hlocate⟩ := hfile hu
          obtain rfl := Except.ok.inj (hparent'.symm.trans hparent)
          exact hplace u hu _ hlocate

/-- A configuration with an override file. -/
def eventsConfig : Json :=
  .object [("schema", .object [("path", .string "schema.json")]),
    ("scalars", .array [.object [("name", .string "Date"), ("file", .string "date.rs")]])]

/-- A schema with the scalar and an object without fields. -/
def eventsSchema : Json :=
  .object [("types", .array [
    .object [("kind", .string "SCALAR"), ("name", .string "Date")],
    .object [("kind", .string "OBJECT"), ("name", .string "Event")]])]

/-- A project on a disk, next to a file that has the name of a unit. -/
def eventsDisk : Disk where
  nodes := [
    (["app"], .directory),
    (["app", ".gryphin"], .file eventsConfig.print.toUTF8),
    (["app", "schema.json"], .file eventsSchema.print.toUTF8),
    (["app", "date.rs"], .file "pub type Date = u64;".toUTF8),
    (["app", "mod.rs"], .file "// Written by hand.".toUTF8)]
  workingDirectory := []

/-- What that project says. -/
def eventsInputs : Inputs where
  config := ⟨"app/.gryphin"⟩
  configuration := ⟨⟨some ⟨"schema.json"⟩, none⟩, [⟨"Date", some ⟨"date.rs"⟩, none⟩], .default⟩
  graph := ⟨[⟨"Date", none, .scalar none⟩, ⟨"Event", none, .object [] []⟩], ⟨none, none, none⟩⟩
  overrides := [⟨"Date", .file ⟨"app/date.rs"⟩⟩]
  sources := ["pub type Date = u64;"]

theorem eventsInputs_saidOn : eventsInputs.SaidOn eventsDisk where
  configuration := ⟨eventsConfig.print, by decide +kernel,
    toOption_eq_some_iff.1 (by decide +kernel)⟩
  graph := ⟨⟨"app/schema.json"⟩, eventsSchema.print, toOption_eq_some_iff.1 (by decide +kernel),
    by decide +kernel, toOption_eq_some_iff.1 (by decide +kernel)⟩
  overrides := toOption_eq_some_iff.1 (by decide +kernel)
  sources := by decide +kernel

theorem generate_all_or_nothing_events :
    ∃ summary after,
      (generate Disk.fileSystem ⟨"app"⟩ ⟨"app/generated"⟩ none).run.run eventsDisk
          = (.ok summary, after)
        ∧ summary.written = [⟨"app/generated/mod.rs"⟩, ⟨"app/generated/aliases.rs"⟩,
            ⟨"app/generated/event.rs"⟩]
        ∧ (∀ u ∈ eventsInputs.output.units, ∃ place,
            after.locate ((⟨"app/generated"⟩ : Path).join u.path)
              = .ok (place, .file u.content.toUTF8))
        ∧ after.node? ["app", "mod.rs"] = some (.file "// Written by hand.".toUTF8) := by
  have heval : (fun run : Except Failure Summary × Disk ↦
        (run.1.toOption.map fun summary ↦ (summary.config, summary.written),
          run.2.node? ["app", "mod.rs"]))
      ((generate Disk.fileSystem ⟨"app"⟩ ⟨"app/generated"⟩ none).run.run eventsDisk)
    = (some (⟨"app/.gryphin"⟩, [⟨"app/generated/mod.rs"⟩, ⟨"app/generated/aliases.rs"⟩,
        ⟨"app/generated/event.rs"⟩]), some (.file "// Written by hand.".toUTF8)) := by
    decide +kernel
  rcases hrun : (generate Disk.fileSystem ⟨"app"⟩ ⟨"app/generated"⟩ none).run.run eventsDisk with
    ⟨r, after⟩
  rw [hrun] at heval
  obtain ⟨hwritten, hother⟩ := Prod.mk.inj heval
  cases r with
  | error e => cases hwritten
  | ok summary =>
    obtain ⟨hconfig, hpaths⟩ := Prod.mk.inj (Option.some.inj hwritten)
    obtain ⟨i, -, hsaid, hsummary, hfiles⟩ := (generate_all_or_nothing Disk.fileSystem_worksOn
      ⟨"app"⟩ ⟨"app/generated"⟩ none eventsDisk after (.ok summary) hrun).2 summary rfl
    have hinputs : i = eventsInputs := by
      refine hsaid.unique eventsInputs_saidOn ?_
      rw [hsummary] at hconfig
      exact hconfig
    subst hinputs
    exact ⟨summary, after, rfl, hpaths, (hfiles (by decide)).1, hother⟩

end Project
end QueryBuilder
