import Mathlib.Data.List.Sort
import Mathlib.Data.String.Basic
import QueryBuilder.Proofs.Project.Reading

/-!
# Finding the configuration

The configuration of a project is a file in its directory.  Whether a file counts is a matter of its
name, and of what it is: directories and links do not count.  The system lists a directory in any
order, and that has no part in what is found.

## What is here

* `Directory`, `Directory.IsListedAs` — what stands in a directory, and the listings that the system
  may give of it.
* `IsConfigName`, `Directory.HasConfig` — the names of configuration files, and the ones in a
  directory.
* `IsDiscovery` — what there is to find in a directory: a file, none, or several.
* `configNames_eq` — the sorted names that count are the same for all listings.
* `discover_exact` — what is found is what there is to find.
-/

set_option autoImplicit false

namespace QueryBuilder
namespace Project

/-! ## Directories -/

/-- What stands under a name. -/
inductive EntryKind where
  | file
  | directory
  | symbolicLink
  /-- A device, a socket or a pipe. -/
  | other
  deriving DecidableEq

/-- What stands in a directory, each under a name of its own. -/
structure Directory where
  entries : List (String × EntryKind)
  nodup : (entries.map (·.1)).Nodup

/-- What the system lists of something in a directory. -/
def listEntry (entry : String × EntryKind) : DirEntry :=
  ⟨entry.1, entry.2 == .file⟩

/-- The system lists everything in the directory once, in any order. -/
def Directory.IsListedAs (d : Directory) (listed : List DirEntry) : Prop :=
  listed.Perm (d.entries.map listEntry)

/-- The name of a configuration file: `.gryphin`, or that with an ending that is not empty. -/
def IsConfigName (name : String) : Prop :=
  name = ".gryphin" ∨ ∃ ending, ending ≠ "" ∧ name = ".gryphin." ++ ending

/-- The directory has a configuration file of that name. -/
def Directory.HasConfig (d : Directory) (name : String) : Prop :=
  (name, .file) ∈ d.entries ∧ IsConfigName name

/-- What there is to find in a directory. -/
inductive IsDiscovery (root : Path) (d : Directory) : Except Failure Path → Prop
  | found {name : String} (h : ∀ n, d.HasConfig n ↔ n = name) :
      IsDiscovery root d (.ok (root.join ⟨name⟩))
  | notFound (h : ∀ n, ¬ d.HasConfig n) : IsDiscovery root d (.error (.configNotFound root))
  | ambiguous {names : List String} (h : ∀ n, d.HasConfig n ↔ n ∈ names) (hsorted : names.SortedLT)
      (hseveral : 2 ≤ names.length) :
      IsDiscovery root d (.error (.multipleConfigs (names.map fun name ↦ root.join ⟨name⟩)))

/-! ## The names that count -/

theorem toList_configName_append (ending : String) :
    (".gryphin." ++ ending).toList = (configName.toList ++ ['.']) ++ ending.toList :=
  String.toList_append

theorem isConfigName_iff {name : String} : isConfigName name = true ↔ IsConfigName name := by
  rw [isConfigName, Bool.or_eq_true, beq_iff_eq, IsConfigName, Bool.and_eq_true,
    decide_eq_true_eq, List.isPrefixOf_iff_prefix]
  refine or_congr_right ⟨?_, ?_⟩
  · rintro ⟨⟨ending, hending⟩, hlength⟩
    have hname : name = ".gryphin." ++ String.ofList ending := by
      rw [← String.toList_inj, toList_configName_append, String.toList_ofList, hending]
    refine ⟨String.ofList ending, ?_, hname⟩
    intro hempty
    rw [hname, hempty] at hlength
    exact absurd hlength (by decide)
  · rintro ⟨ending, hending, rfl⟩
    have hpos : 0 < ending.length := Nat.pos_of_ne_zero (mt String.length_eq_zero_iff.1 hending)
    refine ⟨⟨ending.toList, (toList_configName_append ending).symm⟩, ?_⟩
    rw [String.length_append]
    exact Nat.add_lt_add_left hpos 9

/-- The names of the configuration files in a listing. -/
def listedConfigs (listed : List DirEntry) : List String :=
  (listed.filter fun e ↦ e.isFile && isConfigName e.name).map (·.name)

/-- The same, sorted. -/
def configNames (listed : List DirEntry) : List String :=
  (listedConfigs listed).mergeSort fun a b ↦ decide (a ≤ b)

theorem configFiles_eq (root : Path) (listed : List DirEntry) :
    configFiles root listed = (configNames listed).map fun name ↦ root.join ⟨name⟩ :=
  rfl

variable {d : Directory} {listed : List DirEntry}

theorem mem_listedConfigs_iff (h : d.IsListedAs listed) {name : String} :
    name ∈ listedConfigs listed ↔ d.HasConfig name := by
  simp only [listedConfigs, List.mem_map, List.mem_filter, Bool.and_eq_true, isConfigName_iff,
    h.mem_iff]
  constructor
  · rintro ⟨_, ⟨⟨⟨name, kind⟩, hentry, rfl⟩, hfile, hname⟩, rfl⟩
    obtain rfl : kind = .file := eq_of_beq hfile
    exact ⟨hentry, hname⟩
  · rintro ⟨hentry, hname⟩
    exact ⟨listEntry (name, .file), ⟨⟨_, hentry, rfl⟩, rfl, hname⟩, rfl⟩

theorem nodup_listedConfigs (h : d.IsListedAs listed) : (listedConfigs listed).Nodup := by
  have hnames : (listed.map (·.name)).Nodup := by
    refine (h.map _).nodup_iff.2 ?_
    rw [List.map_map]
    exact d.nodup
  exact hnames.sublist (List.filter_sublist.map _)

theorem mem_configNames_iff (h : d.IsListedAs listed) {name : String} :
    name ∈ configNames listed ↔ d.HasConfig name := by
  rw [configNames, List.mem_mergeSort, mem_listedConfigs_iff h]

theorem sortedLT_configNames (h : d.IsListedAs listed) : (configNames listed).SortedLT := by
  have hnodup : (configNames listed).Nodup :=
    (List.mergeSort_perm _ _).nodup_iff.2 (nodup_listedConfigs h)
  exact List.sortedLE_mergeSort.sortedLT_of_nodup hnodup

/-- **The names that count are found whatever the order of the listing is.** -/
theorem configNames_eq (h : d.IsListedAs listed) {names : List String}
    (hnames : ∀ n, d.HasConfig n ↔ n ∈ names) (hsorted : names.SortedLT) :
    configNames listed = names :=
  (sortedLT_configNames h).eq_of_mem_iff hsorted fun n ↦ (mem_configNames_iff h).trans (hnames n)

/-! ## What is found -/

theorem chooseConfig_eq (root : Path) (listed : List DirEntry) :
    chooseConfig root listed = match configNames listed with
      | [] => .error (.configNotFound root)
      | [name] => .ok (root.join ⟨name⟩)
      | names => .error (.multipleConfigs (names.map fun name ↦ root.join ⟨name⟩)) := by
  rw [chooseConfig, configFiles_eq]
  rcases configNames listed with _ | ⟨name, _ | ⟨next, rest⟩⟩ <;> rfl

/-- **A choice from a listing is what there is to find.** -/
theorem isDiscovery_iff (h : d.IsListedAs listed) (root : Path) (answer : Except Failure Path) :
    IsDiscovery root d answer ↔ answer = chooseConfig root listed := by
  constructor
  · intro hdiscovery
    rw [chooseConfig_eq]
    cases hdiscovery with
    | @found name hname =>
      have hnames : ∀ n, d.HasConfig n ↔ n ∈ [name] := fun n ↦
        (hname n).trans List.mem_singleton.symm
      rw [configNames_eq h hnames (List.pairwise_singleton _ name).sortedLT]
    | notFound hnone =>
      have hnames : ∀ n, d.HasConfig n ↔ n ∈ [] := fun n ↦ iff_of_false (hnone n) List.not_mem_nil
      rw [configNames_eq h hnames List.Pairwise.nil.sortedLT]
    | @ambiguous names hnames hsorted hseveral =>
      rw [configNames_eq h hnames hsorted]
      match names, hseveral with
      | _ :: _ :: _, _ => rfl
  · rintro rfl
    have hnames : ∀ n, d.HasConfig n ↔ n ∈ configNames listed := fun n ↦
      (mem_configNames_iff h).symm
    have hsorted := sortedLT_configNames h
    rw [chooseConfig_eq]
    generalize configNames listed = names at hnames hsorted ⊢
    rcases names with _ | ⟨name, _ | ⟨next, rest⟩⟩
    · exact .notFound fun n hn ↦ List.not_mem_nil ((hnames n).1 hn)
    · exact .found fun n ↦ (hnames n).trans List.mem_singleton
    · exact .ambiguous hnames hsorted (Nat.le_add_left 2 rest.length)

/-- Two directories with the same configuration files are alike for the choice. -/
theorem chooseConfig_eq_of_hasConfig_iff {d' : Directory} {listed' : List DirEntry}
    (h : d.IsListedAs listed) (h' : d'.IsListedAs listed')
    (hsame : ∀ name, d.HasConfig name ↔ d'.HasConfig name) (root : Path) :
    chooseConfig root listed = chooseConfig root listed' := by
  have hnames : ∀ n, d.HasConfig n ↔ n ∈ configNames listed' := fun n ↦
    (hsame n).trans (mem_configNames_iff h').symm
  rw [chooseConfig_eq, chooseConfig_eq, configNames_eq h hnames (sortedLT_configNames h')]

/-- What is not a file, and a name that goes on without a point or ends with it, does not count. -/
theorem Directory.HasConfig.excludes {name : String} (h : d.HasConfig name) {kind : EntryKind}
    (hentry : (name, kind) ∈ d.entries) :
    kind = .file ∧ name ≠ ".gryphinrc" ∧ name ≠ ".gryphin." := by
  have hfile := List.inj_on_of_nodup_map d.nodup hentry h.1 rfl
  have hname := isConfigName_iff.2 h.2
  refine ⟨congrArg Prod.snd hfile, ?_, ?_⟩
  · rintro rfl
    exact absurd hname (by decide)
  · rintro rfl
    exact absurd hname (by decide)

section

variable {σ : Type} {fs : FileSystem (StateM σ)} {root : Path} {s s' : σ}

theorem run_discover (h : (fs.list root).run s = (.ok listed, s')) :
    (discover fs root).run.run s = (chooseConfig root listed, s') := by
  rw [discover, ExceptT.run_bind, StateT.run_bind, run_mapError, h]
  rfl

end

/-- **What is found is what there is to find**, in whatever order the directory is listed: the file
that counts if there is one, that there is none, or all of them, sorted, if there are several.  Two
runs that list directories with the same configuration files, each in any order, find the same.  So
nothing else in a directory has a part in it. -/
theorem discover_exact {σ τ : Type} (fs : FileSystem (StateM σ)) (fs' : FileSystem (StateM τ))
    (root : Path) (d d' : Directory) (listed listed' : List DirEntry) (s s₁ : σ) (t t₁ : τ)
    (hlist : (fs.list root).run s = (.ok listed, s₁)) (hlisted : d.IsListedAs listed)
    (hlist' : (fs'.list root).run t = (.ok listed', t₁)) (hlisted' : d'.IsListedAs listed')
    (hsame : ∀ name, d.HasConfig name ↔ d'.HasConfig name) :
    ∃ answer, (discover fs root).run.run s = (answer, s₁)
      ∧ (discover fs' root).run.run t = (answer, t₁)
      ∧ (∀ a, IsDiscovery root d a ↔ a = answer)
      ∧ ∀ name kind, d.HasConfig name → (name, kind) ∈ d.entries →
        kind = .file ∧ name ≠ ".gryphinrc" ∧ name ≠ ".gryphin." := by
  refine ⟨chooseConfig root listed, run_discover hlist, ?_, isDiscovery_iff hlisted root,
    fun name kind hname hentry ↦ hname.excludes hentry⟩
  rw [chooseConfig_eq_of_hasConfig_iff hlisted hlisted' hsame]
  exact run_discover hlist'

/-- A system that has nothing but a directory, and lists it forwards and backwards in turn. -/
def turningFiles (d : Directory) : FileSystem (StateM Bool) where
  readText _ := pure (.error .notFound)
  list _ := fun backwards ↦
    let listed := d.entries.map listEntry
    (.ok (if backwards then listed.reverse else listed), !backwards)
  createDirectories _ := pure (.error .alreadyExists)
  writeText _ _ := pure (.error .notFound)

/-- A directory with several things that are called like configurations, of which one counts. -/
def misleadingDirectory : Directory where
  entries := [(".gryphinrc", .file), (".gryphin", .directory), (".gryphin.local", .file),
    (".gryphin.", .file), (".gryphin.ci", .symbolicLink), ("schema.json", .file)]
  nodup := by decide

/-- A directory with that one and with nothing misleading. -/
def tidyDirectory : Directory where
  entries := [("src", .directory), (".gryphin.local", .file)]
  nodup := by decide

/-- A disk with that directory. -/
def tidyDisk : Disk where
  nodes := [
    (["app"], .directory),
    (["app", ".gryphin.local"], .file "{}".toUTF8),
    (["app", "src"], .directory)]
  workingDirectory := []

theorem discover_exact_misleadingDirectory :
    (∀ name, misleadingDirectory.HasConfig name ↔ tidyDirectory.HasConfig name)
      ∧ misleadingDirectory.IsListedAs (misleadingDirectory.entries.map listEntry).reverse
      ∧ tidyDirectory.IsListedAs [⟨".gryphin.local", true⟩, ⟨"src", false⟩]
      ∧ (discover (turningFiles misleadingDirectory) ⟨"app"⟩).run.run true
        = (.ok ⟨"app/.gryphin.local"⟩, false)
      ∧ (discover Disk.fileSystem ⟨"app"⟩).run.run tidyDisk
        = (.ok ⟨"app/.gryphin.local"⟩, tidyDisk) := by
  have hlisted :
      misleadingDirectory.IsListedAs (misleadingDirectory.entries.map listEntry).reverse :=
    List.reverse_perm _
  have hlisted' : tidyDirectory.IsListedAs [⟨".gryphin.local", true⟩, ⟨"src", false⟩] :=
    List.Perm.swap _ _ _
  have hlist' : (Disk.fileSystem.list ⟨"app"⟩).run tidyDisk
      = (.ok [⟨".gryphin.local", true⟩, ⟨"src", false⟩], tidyDisk) :=
    rfl
  have hconfig (name : String) : misleadingDirectory.HasConfig name ↔ name = ".gryphin.local" := by
    have hnames : listedConfigs (misleadingDirectory.entries.map listEntry).reverse
        = [".gryphin.local"] := by
      decide
    rw [← mem_listedConfigs_iff hlisted, hnames, List.mem_singleton]
  have hconfig' (name : String) : tidyDirectory.HasConfig name ↔ name = ".gryphin.local" := by
    have hnames : listedConfigs [⟨".gryphin.local", true⟩, ⟨"src", false⟩]
        = [".gryphin.local"] := by
      decide
    rw [← mem_listedConfigs_iff hlisted', hnames, List.mem_singleton]
  have hsame (name : String) : misleadingDirectory.HasConfig name ↔ tidyDirectory.HasConfig name :=
    (hconfig name).trans (hconfig' name).symm
  obtain ⟨answer, hrun, hrun', hanswer, -⟩ :=
    discover_exact (turningFiles misleadingDirectory) Disk.fileSystem ⟨"app"⟩
      misleadingDirectory tidyDirectory _ _ true false tidyDisk tidyDisk rfl hlisted hlist' hlisted'
      hsame
  have hjoin : (⟨"app"⟩ : Path).join ⟨".gryphin.local"⟩ = ⟨"app/.gryphin.local"⟩ := by decide
  have hfound : IsDiscovery ⟨"app"⟩ misleadingDirectory (.ok ⟨"app/.gryphin.local"⟩) :=
    hjoin ▸ IsDiscovery.found hconfig
  obtain rfl := (hanswer _).1 hfound
  exact ⟨hsame, hlisted, hlisted', hrun, hrun'⟩

end Project
end QueryBuilder
