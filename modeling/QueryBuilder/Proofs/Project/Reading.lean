import Mathlib.Data.List.Perm.Subperm
import QueryBuilder.Project.Generate
import QueryBuilder.Proofs.Project.Disk

/-!
# What a run reads

Everything up to writing only reads.  It may fail anywhere, and whether it does or not, the disk is
as before.  Where it succeeds, its plan is what the files on the disk say.

## What is here

* `FileSystem.WorksOn` — the operations are those of a disk that is part of a larger state.  The
  rest of the state may decide about failures: any operation may fail at any time.
* `Reads` — an action leaves the disk alone, and its answer has to do with the disk as stated.  It
  is kept by sequencing (`Reads.bind`).
* `Inputs`, `Inputs.SaidOn` — what the files of a project say, and that they say it on a disk.
  There is only one thing that they say (`Inputs.SaidOn.unique`).
* `prepare_reads` — what is prepared is the plan of the inputs on the disk.
-/

set_option autoImplicit false

namespace QueryBuilder
namespace Project

/-! ## File systems on a disk -/

/-- The operations work on a disk that is part of the state.  Reading leaves the disk alone, and
what it answers is there; a list of entries may be in any order and leave out those that cannot be
looked at.  Writing does what it does on a disk if it succeeds.  Any operation may fail at any time,
and what a failing one changes of files is not known. -/
structure FileSystem.WorksOn {σ : Type} (fs : FileSystem (StateM σ)) (disk : σ → Disk) : Prop where
  readText : ∀ path s r s', (fs.readText path).run s = (r, s') →
    disk s' = disk s ∧ ∀ text, r = .ok text → (disk s).read path = .ok text
  list : ∀ path s r s', (fs.list path).run s = (r, s') →
    disk s' = disk s ∧ ∀ entries, r = .ok entries →
      ∃ listed, (disk s).list path = .ok listed ∧ entries.Subperm listed
  createDirectories : ∀ path s s', (fs.createDirectories path).run s = (.ok (), s') →
    (disk s).makeDirectories path = (disk s', .ok ())
  writeText : ∀ path text s s', (fs.writeText path text).run s = (.ok (), s') →
    (disk s).write path text = .ok (disk s')

/-- The file system of a disk works on it. -/
theorem Disk.fileSystem_worksOn : Disk.fileSystem.WorksOn id where
  readText path s r s' h := by
    obtain ⟨rfl, rfl⟩ := Prod.mk.inj h
    exact ⟨rfl, fun _ htext ↦ htext⟩
  list path s r s' h := by
    obtain ⟨rfl, rfl⟩ := Prod.mk.inj h
    exact ⟨rfl, fun entries hentries ↦ ⟨entries, hentries, List.Subperm.refl _⟩⟩
  createDirectories path s s' h := by
    obtain ⟨hok, rfl⟩ := Prod.mk.inj h
    exact Prod.ext rfl hok
  writeText path text s s' h := by
    simp only [Disk.fileSystem, Disk.attempt, StateT.run] at h
    cases hwrite : s.write path text with
    | error e =>
      rw [hwrite] at h
      cases (Prod.mk.inj h).1
    | ok d =>
      rw [hwrite] at h
      exact hwrite.trans (congrArg Except.ok (Prod.mk.inj h).2)

/-! ## Runs of actions -/

section

variable {σ α β : Type}

/-- A sequence ends with its first action, or it goes on with the answer of that. -/
theorem run_bind_cases {action : Run (StateM σ) α} {next : α → Run (StateM σ) β} {s s' : σ}
    {r : Except Failure β} (h : (action >>= next).run.run s = (r, s')) :
    (∃ e, action.run.run s = (.error e, s') ∧ r = .error e)
      ∨ ∃ a s₁, action.run.run s = (.ok a, s₁) ∧ (next a).run.run s₁ = (r, s') := by
  rcases hfirst : action.run.run s with ⟨x, s₁⟩
  rw [ExceptT.run_bind, StateT.run_bind, hfirst] at h
  cases x with
  | error e =>
    obtain ⟨rfl, rfl⟩ := Prod.mk.inj h
    exact .inl ⟨e, rfl, rfl⟩
  | ok a => exact .inr ⟨a, s₁, rfl, h⟩

/-- An operation, with its errors in other words. -/
theorem run_mapError {ε : Type} (operation : StateM σ (Except ε α)) (f : ε → Failure) (s : σ) :
    (ExceptT.mk do return (← operation).mapError f : Run (StateM σ) α).run.run s
      = ((operation.run s).1.mapError f, (operation.run s).2) :=
  rfl

end

/-! ## Actions that only read -/

theorem mapError_eq_ok_iff {ε ε' α : Type} {x : Except ε α} {f : ε → ε'} {a : α} :
    x.mapError f = .ok a ↔ x = .ok a := by
  cases x <;> simp [Except.mapError]

/-- The action leaves the disk alone, and if it succeeds its answer has to do with the disk as
stated. -/
def Reads {σ α : Type} (disk : σ → Disk) (action : Run (StateM σ) α) (P : Disk → α → Prop) : Prop :=
  ∀ s r s', action.run.run s = (r, s') → disk s' = disk s ∧ ∀ a, r = .ok a → P (disk s) a

namespace Reads

variable {σ α β : Type} {disk : σ → Disk} {P : Disk → α → Prop}

/-- A computation that needs no files. -/
theorem ofExcept (x : Except Failure α) :
    Reads disk (ExceptT.mk (pure x)) fun _ a ↦ x = .ok a := by
  intro s r s' h
  obtain ⟨rfl, rfl⟩ := Prod.mk.inj h
  exact ⟨rfl, fun _ ha ↦ ha⟩

theorem pure (a : α) : Reads disk (Pure.pure a) fun _ b ↦ b = a := by
  intro s r s' h
  obtain ⟨rfl, rfl⟩ := Prod.mk.inj h
  exact ⟨rfl, fun _ hb ↦ (Except.ok.inj hb).symm⟩

/-- An operation that only reads. -/
theorem ofOperation {ε : Type} {operation : StateM σ (Except ε α)} (f : ε → Failure)
    (h : ∀ s r s', operation.run s = (r, s') →
      disk s' = disk s ∧ ∀ a, r = .ok a → P (disk s) a) :
    Reads disk (ExceptT.mk do return (← operation).mapError f) P := by
  intro s r s' hrun
  rw [run_mapError] at hrun
  obtain ⟨rfl, rfl⟩ := Prod.mk.inj hrun
  obtain ⟨hdisk, hanswer⟩ := h s _ _ rfl
  exact ⟨hdisk, fun a ha ↦ hanswer a (mapError_eq_ok_iff.1 ha)⟩

theorem imp {action : Run (StateM σ) α} {Q : Disk → α → Prop} (h : Reads disk action P)
    (hPQ : ∀ d a, P d a → Q d a) : Reads disk action Q := fun s r s' hrun ↦
  ⟨(h s r s' hrun).1, fun a ha ↦ hPQ _ a ((h s r s' hrun).2 a ha)⟩

/-- **What reads, and then reads, only reads.** -/
theorem bind {action : Run (StateM σ) α} {next : α → Run (StateM σ) β} {Q : α → Disk → β → Prop}
    (h : Reads disk action P) (hnext : ∀ a, Reads disk (next a) (Q a)) :
    Reads disk (action >>= next) fun d b ↦ ∃ a, P d a ∧ Q a d b := by
  intro s r s' hrun
  rcases run_bind_cases hrun with ⟨e, hfirst, rfl⟩ | ⟨a, s₁, hfirst, hrest⟩
  · exact ⟨(h s _ s' hfirst).1, fun b hb ↦ by cases hb⟩
  · obtain ⟨hdisk, hanswer⟩ := h s _ s₁ hfirst
    obtain ⟨hdisk', hanswer'⟩ := hnext a s₁ r s' hrest
    refine ⟨hdisk'.trans hdisk, fun b hb ↦ ⟨a, hanswer a rfl, ?_⟩⟩
    rw [← hdisk]
    exact hanswer' b hb

end Reads

/-! ## The inputs of a run -/

/-- What the files of a project say. -/
structure Inputs where
  config : Path
  configuration : Configuration
  /-- The graph of the schema, without overrides. -/
  graph : Schema.TypeGraph
  overrides : List Schema.Override
  /-- The contents of the override files that are in effect. -/
  sources : List String

namespace Inputs

/-- The graph and what became of the overrides. -/
def merged (i : Inputs) : Schema.TypeGraph × Schema.MergeReport :=
  Schema.Override.merge i.overrides i.graph

/-- The override files that are in effect. -/
def files (i : Inputs) : List Path :=
  Schema.effectiveFiles i.overrides i.merged.1

/-- The units of the merged graph, with the override files appended. -/
def output (i : Inputs) : Code.Output :=
  i.sources.foldl Code.Output.appendToAliases
    (Code.generate i.merged.1 i.configuration.codeOptions)

/-- What is to be written. -/
def plan (i : Inputs) : Plan :=
  ⟨i.config, i.output, i.merged.2.skipped, i.files.length⟩

/-- The files on a disk say this. -/
structure SaidOn (i : Inputs) (d : Disk) : Prop where
  configuration : ∃ text, d.read i.config = .ok text
    ∧ Configuration.parse text = .ok i.configuration
  graph : ∃ path text, i.configuration.schemaPath (directoryOf i.config) = .ok path
    ∧ d.read path = .ok text ∧ Schema.ofText text = .ok i.graph
  overrides : i.configuration.scalarOverrides (directoryOf i.config) = .ok i.overrides
  sources : List.Forall₂ (fun path source ↦ d.read path = .ok source) i.files i.sources

/-- **What a project says is determined by its disk** and by which configuration file is used. -/
theorem SaidOn.unique {i j : Inputs} {d : Disk} (hi : i.SaidOn d) (hj : j.SaidOn d)
    (hconfig : i.config = j.config) : i = j := by
  obtain ⟨config, configuration, graph, overrides, sources⟩ := i
  obtain ⟨config', configuration', graph', overrides', sources'⟩ := j
  obtain rfl : config = config' := hconfig
  obtain rfl : configuration = configuration' := by
    obtain ⟨text, htext, hparse⟩ := hi.configuration
    obtain ⟨text', htext', hparse'⟩ := hj.configuration
    obtain rfl := Except.ok.inj (htext.symm.trans htext')
    exact Except.ok.inj (hparse.symm.trans hparse')
  obtain rfl : graph = graph' := by
    obtain ⟨path, text, hpath, htext, hgraph⟩ := hi.graph
    obtain ⟨path', text', hpath', htext', hgraph'⟩ := hj.graph
    obtain rfl := Except.ok.inj (hpath.symm.trans hpath')
    obtain rfl := Except.ok.inj (htext.symm.trans htext')
    exact Except.ok.inj (hgraph.symm.trans hgraph')
  obtain rfl : overrides = overrides' := Except.ok.inj (hi.overrides.symm.trans hj.overrides)
  obtain rfl : sources = sources' :=
    List.right_unique_forall₂' (fun _ _ _ h h' ↦ Except.ok.inj (h.symm.trans h')) hi.sources
      hj.sources
  rfl

end Inputs

/-- The file is the given configuration, or else the only one among entries of the directory. -/
def IsConfig (d : Disk) (root : Path) (config? : Option Path) (config : Path) : Prop :=
  match config? with
  | some path => config = path
  | none => ∃ listed entries, d.list root = .ok listed ∧ entries.Subperm listed
    ∧ chooseConfig root entries = .ok config

/-! ## The reading steps -/

section

variable {m : Type → Type} [Monad m] (fs : FileSystem m)

/-- The configuration file that is used. -/
def chooseFile (root : Path) : Option Path → Run m Path
  | some path => pure path
  | none => discover fs root

/-- Everything up to writing, once the configuration file is known. -/
def prepareFrom (config : Path) : Run m Plan := do
  let configuration ← loadConfiguration fs config
  let schemaPath ← ExceptT.mk (pure (configuration.schemaPath (directoryOf config)))
  let graph ← loadSchema fs schemaPath
  let overrides ← ExceptT.mk (pure (configuration.scalarOverrides (directoryOf config)))
  let (graph, report) := Schema.Override.merge overrides graph
  let (output, appended) ← buildOutput fs configuration.codeOptions overrides graph
  return { config, output, skipped := report.skipped, appended }

theorem prepare_eq (root : Path) (config? : Option Path) :
    prepare fs root config? = chooseFile fs root config? >>= prepareFrom fs := by
  cases config? <;> rfl

end

section

variable {σ : Type} {fs : FileSystem (StateM σ)} {disk : σ → Disk} (hfs : fs.WorksOn disk)
include hfs

theorem readFile_reads (path : Path) :
    Reads disk (readFile fs path) fun d text ↦ d.read path = .ok text :=
  .ofOperation _ (hfs.readText path)

theorem discover_reads (root : Path) :
    Reads disk (discover fs root) fun d config ↦ IsConfig d root none config := by
  have hlist : Reads disk (ExceptT.mk do return (← fs.list root).mapError (.read root))
      fun d entries ↦ ∃ listed, d.list root = .ok listed ∧ entries.Subperm listed :=
    .ofOperation _ (hfs.list root)
  refine (hlist.bind fun entries ↦ .ofExcept (chooseConfig root entries)).imp fun d config h ↦ ?_
  obtain ⟨entries, ⟨listed, hlisted, hsub⟩, hchoose⟩ := h
  exact ⟨listed, entries, hlisted, hsub, hchoose⟩

theorem loadConfiguration_reads (path : Path) :
    Reads disk (loadConfiguration fs path) fun d configuration ↦
      ∃ text, d.read path = .ok text ∧ Configuration.parse text = .ok configuration :=
  ((readFile_reads hfs path).bind fun _ ↦ .ofExcept _).imp fun _ _ ⟨text, htext, hparse⟩ ↦
    ⟨text, htext, mapError_eq_ok_iff.1 hparse⟩

theorem loadSchema_reads (path : Path) :
    Reads disk (loadSchema fs path) fun d g ↦
      ∃ text, d.read path = .ok text ∧ Schema.ofText text = .ok g :=
  ((readFile_reads hfs path).bind fun _ ↦ .ofExcept _).imp fun _ _ ⟨text, htext, hparse⟩ ↦
    ⟨text, htext, mapError_eq_ok_iff.1 hparse⟩

/-- **The files are appended in order**, unless one of them cannot be read. -/
theorem appendAll_reads (o : Code.Output) (paths : List Path) (s s' : σ)
    (r : Code.Output × Except Failure Unit)
    (h : (o.appendAll (fun p ↦ (readFile fs p).run) paths).run s = (r, s')) :
    disk s' = disk s ∧ (r.2 = .ok () → ∃ sources,
      List.Forall₂ (fun path source ↦ (disk s).read path = .ok source) paths sources
        ∧ r.1 = sources.foldl Code.Output.appendToAliases o) := by
  induction paths generalizing o s with
  | nil =>
    obtain ⟨rfl, rfl⟩ := Prod.mk.inj h
    exact ⟨rfl, fun _ ↦ ⟨[], .nil, rfl⟩⟩
  | cons path rest ih =>
    rw [Code.Output.appendAll, StateT.run_bind] at h
    rcases hfirst : (readFile fs path).run.run s with ⟨x, s₁⟩
    obtain ⟨hdisk, hanswer⟩ := readFile_reads hfs path s x s₁ hfirst
    rw [hfirst] at h
    cases x with
    | error e =>
      obtain ⟨rfl, rfl⟩ := Prod.mk.inj h
      exact ⟨hdisk, fun hok ↦ by cases hok⟩
    | ok source =>
      obtain ⟨hdisk', hanswer'⟩ := ih (o.appendToAliases source) s₁ h
      refine ⟨hdisk'.trans hdisk, fun hok ↦ ?_⟩
      obtain ⟨sources, hsources, houtput⟩ := hanswer' hok
      rw [hdisk] at hsources
      exact ⟨source :: sources, .cons (hanswer source rfl) hsources, houtput⟩

theorem buildOutput_reads (options : Code.Options) (overrides : List Schema.Override)
    (g : Schema.TypeGraph) :
    Reads disk (buildOutput fs options overrides g) fun d answer ↦ ∃ sources,
      List.Forall₂ (fun path source ↦ d.read path = .ok source)
          (Schema.effectiveFiles overrides g) sources
        ∧ answer.1 = sources.foldl Code.Output.appendToAliases (Code.generate g options)
        ∧ answer.2 = (Schema.effectiveFiles overrides g).length := by
  intro s r s' h
  rcases hall : ((Code.generate g options).appendAll (fun p ↦ (readFile fs p).run)
    (Schema.effectiveFiles overrides g)).run s with ⟨⟨output, x⟩, s₁⟩
  obtain ⟨hdisk, hanswer⟩ := appendAll_reads hfs _ _ s s₁ _ hall
  rw [buildOutput, Code.Output.appendFiles, ExceptT.run_bind, ExceptT.run_lift] at h
  simp only [StateT.run_bind, StateT.run_map, map_bind, hall] at h
  cases x with
  | error e =>
    obtain ⟨rfl, rfl⟩ := Prod.mk.inj h
    exact ⟨hdisk, fun a ha ↦ by cases ha⟩
  | ok u =>
    obtain ⟨rfl, rfl⟩ := Prod.mk.inj h
    obtain ⟨sources, hsources, rfl⟩ := hanswer rfl
    refine ⟨hdisk, fun a ha ↦ ?_⟩
    obtain rfl := Except.ok.inj ha
    exact ⟨sources, hsources, rfl, rfl⟩

theorem prepareFrom_reads (config : Path) :
    Reads disk (prepareFrom fs config) fun d plan ↦
      ∃ i : Inputs, i.config = config ∧ i.SaidOn d ∧ plan = i.plan := by
  refine ((loadConfiguration_reads hfs config).bind fun configuration ↦
    (Reads.ofExcept (configuration.schemaPath (directoryOf config))).bind fun schemaPath ↦
    (loadSchema_reads hfs schemaPath).bind fun graph ↦
    (Reads.ofExcept (configuration.scalarOverrides (directoryOf config))).bind fun overrides ↦
    (buildOutput_reads hfs configuration.codeOptions overrides
      (Schema.Override.merge overrides graph).1).bind fun answer ↦ Reads.pure (⟨config, answer.1,
        (Schema.Override.merge overrides graph).2.skipped, answer.2⟩ : Plan)).imp ?_
  rintro d plan ⟨configuration, hconfiguration, path, hpath, graph, ⟨text, htext, hgraph⟩,
    overrides, hoverrides, ⟨output, appended⟩, ⟨sources, hsources, houtput, happended⟩, rfl⟩
  obtain rfl := houtput
  obtain rfl := happended
  exact ⟨⟨config, configuration, graph, overrides, sources⟩, rfl,
    ⟨hconfiguration, ⟨path, text, hpath, htext, hgraph⟩, hoverrides, hsources⟩, rfl⟩

/-- **What is prepared is the plan of the inputs on the disk**, and the disk is left alone. -/
theorem prepare_reads (root : Path) (config? : Option Path) :
    Reads disk (prepare fs root config?) fun d plan ↦
      ∃ i : Inputs, IsConfig d root config? i.config ∧ i.SaidOn d ∧ plan = i.plan := by
  have hconfig : Reads disk (chooseFile fs root config?) fun d config ↦
      IsConfig d root config? config := by
    cases config? with
    | some path => exact .pure path
    | none => exact discover_reads hfs root
  rw [prepare_eq]
  refine (hconfig.bind (prepareFrom_reads hfs)).imp ?_
  rintro d plan ⟨config, hconfig, i, rfl, hsaid, rfl⟩
  exact ⟨i, hconfig, hsaid, rfl⟩

end

end Project
end QueryBuilder
