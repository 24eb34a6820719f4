import QueryBuilder.Project.Disk
import QueryBuilder.Proofs.Path
import QueryBuilder.Proofs.Success

/-!
# What operations do to a disk

* `Disk.Keeps`, `Disk.Keeps.walk` — where directories stay and nothing goes away, every way leads
  where it led.
* `Disk.locateNew_join_eq_ok`, `Disk.write_join_eq_ok` — a file name in a directory leads one place
  below that of the directory, and that is where a write that succeeds puts the content.
* `Disk.locate_of_write_join` — it leaves the other files of the directory alone.
* `Disk.Written` — some files have been written into a directory, and nothing else has been changed.
  Files of different names do not disturb each other (`Disk.Written.cons`).
* `Disk.AddsDirectories` — nothing but new directories: what creating directories does, even if it
  fails (`AddsDirectories.makeDirectories`).

A write puts a file where there is no directory, so it keeps the way to the directory, and the next
file finds its place.
-/

set_option autoImplicit false

namespace QueryBuilder
namespace Project

/-- The name of a file: it is not empty, has no slash and is no point. -/
structure IsFileName (name : String) : Prop where
  nonempty : name ≠ ""
  slash : '/' ∉ name.toList
  point : Disk.isPointName name = false

namespace Disk

/-! ## Nodes -/

theorem node?_put_self (d : Disk) {place : Place} (h : place ≠ []) (node : Node) :
    (d.put place node).node? place = some node := by
  rw [node?, put, List.isEmpty_eq_false_iff.2 h, if_neg Bool.false_ne_true]
  simp only [List.find?_cons_of_pos, beq_self_eq_true, Option.map_some]

theorem node?_put_of_ne (d : Disk) {place other : Place} (h : other ≠ place) (node : Node) :
    (d.put place node).node? other = d.node? other := by
  have hfind : ((place, node) :: d.nodes.filter fun n ↦ n.1 != place).find? (fun n ↦ n.1 == other)
      = d.nodes.find? (fun n ↦ n.1 == other) := by
    rw [List.find?_cons_of_neg (by simpa using Ne.symm h), List.find?_filter]
    refine congrArg (List.find? · d.nodes) (funext fun n ↦ ?_)
    by_cases hn : n.1 = other
    · simp [hn, h]
    · simp [hn]
  rw [node?, node?, put]
  simp only [hfind]

theorem isDirectory_iff {d : Disk} {place : Place} :
    d.isDirectory place = true ↔ d.node? place = some .directory := by
  rw [isDirectory, beq_iff_eq]

/-- Directories stay, and nothing that is there goes away. -/
structure Keeps (before after : Disk) : Prop where
  workingDirectory : after.workingDirectory = before.workingDirectory
  directory : ∀ place, before.node? place = some .directory → after.node? place = some .directory
  node : ∀ place, (before.node? place).isSome → (after.node? place).isSome

namespace Keeps

theorem refl (d : Disk) : d.Keeps d := ⟨rfl, fun _ h ↦ h, fun _ h ↦ h⟩

theorem trans {d d' d'' : Disk} (h : d.Keeps d') (h' : d'.Keeps d'') : d.Keeps d'' :=
  ⟨h'.workingDirectory.trans h.workingDirectory, fun p hp ↦ h'.directory p (h.directory p hp),
    fun p hp ↦ h'.node p (h.node p hp)⟩

/-- Where no directory stands, anything may be put. -/
theorem put {d : Disk} {place : Place} (h : d.isDirectory place = false) (node : Node) :
    d.Keeps (d.put place node) := by
  have hne : place ≠ [] := by
    rintro rfl
    exact absurd h (by simp [isDirectory, node?])
  refine ⟨rfl, fun other hother ↦ ?_, fun other hother ↦ ?_⟩
  · have hne' : other ≠ place := by
      rintro rfl
      rw [isDirectory_iff.2 hother] at h
      cases h
    rw [node?_put_of_ne d hne', hother]
  · by_cases heq : other = place
    · rw [heq, node?_put_self d hne]
      rfl
    · rw [node?_put_of_ne d heq]
      exact hother

variable {d d' : Disk} (h : d.Keeps d')
include h

theorem child {here place : Place} {name : String} (hchild : d.child here name = .ok place) :
    d'.child here name = .ok place := by
  rw [Disk.child] at hchild ⊢
  cases hdirectory : d.isDirectory here with
  | false =>
    rw [hdirectory] at hchild
    cases hchild
  | true =>
    rw [isDirectory_iff.2 (h.directory here (isDirectory_iff.1 hdirectory))]
    rw [hdirectory] at hchild
    exact hchild

theorem start_eq (path : Path) : d'.start path = d.start path := by
  rw [start, start, h.workingDirectory]

/-- **A way that leads somewhere leads there still.** -/
theorem walk {here place : Place} {names : List String} (hwalk : d.walk here names = .ok place) :
    d'.walk here names = .ok place := by
  induction names generalizing here with
  | nil => exact hwalk
  | cons name rest ih =>
    rw [Disk.walk, bind_eq_ok_iff] at hwalk ⊢
    obtain ⟨next, hnext, hrest⟩ := hwalk
    refine ⟨next, h.child hnext, ?_⟩
    split_ifs at hrest with hnone
    have hsome := h.node next (Option.isNone_eq_false_iff.1 (Bool.eq_false_iff.2 hnone))
    rw [Option.isNone_eq_false_iff.2 hsome, if_neg Bool.false_ne_true]
    exact ih hrest

/-- What a path leads to is there, whatever else is new. -/
theorem locateNew {path : Path} {place : Place} {name? : Option String}
    (hlocate : d.locateNew path = .ok (place, name?)) : d'.locateNew path = .ok (place, name?) := by
  rw [Disk.locateNew, bind_eq_ok_iff] at hlocate ⊢
  obtain ⟨⟨⟩, hcheck, hlocate⟩ := hlocate
  refine ⟨(), hcheck, ?_⟩
  rw [bind_eq_ok_iff] at hlocate ⊢
  obtain ⟨parent, hparent, hlocate⟩ := hlocate
  refine ⟨parent, h.start_eq path ▸ h.walk hparent, ?_⟩
  cases hlast : (names path).getLast? with
  | none =>
    rw [hlast] at hlocate
    exact hlocate
  | some name =>
    simp only [hlast, bind_eq_ok_iff] at hlocate ⊢
    obtain ⟨next, hnext, hlocate⟩ := hlocate
    exact ⟨next, h.child hnext, hlocate⟩

end Keeps

/-- A way goes on by one more name if something stands there. -/
theorem walk_concat_eq_ok_iff {d : Disk} {here place : Place} {names : List String}
    {name : String} :
    d.walk here (names ++ [name]) = .ok place ↔ ∃ parent,
      d.walk here names = .ok parent ∧ d.child parent name = .ok place
        ∧ (d.node? place).isSome = true := by
  induction names generalizing here with
  | nil =>
    simp only [List.nil_append, walk, bind_eq_ok_iff]
    constructor
    · rintro ⟨next, hnext, h⟩
      split_ifs at h with hnone
      obtain rfl := Except.ok.inj h
      exact ⟨here, rfl, hnext, by simpa [Option.isSome_iff_ne_none] using hnone⟩
    · rintro ⟨parent, hparent, hchild, hsome⟩
      obtain rfl : here = parent := Except.ok.inj hparent
      refine ⟨place, hchild, ?_⟩
      rw [Option.isNone_eq_false_iff.2 hsome, if_neg Bool.false_ne_true]
  | cons next rest ih =>
    rw [List.cons_append, walk, walk]
    simp only [bind_eq_ok_iff]
    constructor
    · rintro ⟨step, hstep, hrest⟩
      split_ifs at hrest with hnone
      obtain ⟨parent, hparent, hchild⟩ := ih.1 hrest
      exact ⟨parent, ⟨step, hstep, by rw [if_neg hnone, hparent]⟩, hchild⟩
    · rintro ⟨parent, ⟨step, hstep, hrest⟩, hchild⟩
      split_ifs at hrest with hnone
      exact ⟨step, hstep, by rw [if_neg hnone]; exact ih.2 ⟨parent, hrest, hchild⟩⟩

/-! ## Files in a directory -/

/-- The place that a path leads to. -/
def follow (d : Disk) (path : Path) : Except FileError Place :=
  d.walk (d.start path) (names path)

theorem Keeps.follow {d d' : Disk} (h : d.Keeps d') {path : Path} {place : Place}
    (hfollow : d.follow path = .ok place) : d'.follow path = .ok place := by
  rw [Disk.follow, h.start_eq path]
  exact h.walk hfollow

section

variable (directory : Path) {name : String} (hname : IsFileName name)
include hname

theorem names_join : names (directory.join ⟨name⟩) = names directory ++ [name] := by
  have hfilter : [name.toList].filter (fun s ↦ !s.isEmpty) = [name.toList] :=
    List.filter_eq_self.2 fun s hs ↦ by simp [List.mem_singleton.1 hs, hname.nonempty]
  have hsegments := Path.filter_segments_join directory (q := ⟨name⟩) hname.slash
  rw [names, hsegments, hfilter, List.map_append, List.map_singleton, String.ofList_toList, names]

theorem start_join (d : Disk) : d.start (directory.join ⟨name⟩) = d.start directory := by
  rw [start, start, Path.isAbsolute_join directory hname.slash]

theorem endsInSlash_join : endsInSlash (directory.join ⟨name⟩) = false := by
  have hne : name.toList ≠ [] := fun h ↦ hname.nonempty (String.toList_eq_nil_iff.1 h)
  rw [endsInSlash, Path.getLast?_join directory hname.slash hne, beq_eq_false_iff_ne]
  exact fun h ↦ hname.slash (List.mem_of_getLast? h)

omit directory in
/-- A file name is no point, so it leads one place down. -/
theorem eq_of_child_eq_ok {d : Disk} {here place : Place} (h : d.child here name = .ok place) :
    place = here ++ [name] := by
  have hpoint : name ≠ "." ∧ name ≠ ".." := by
    simpa [isPointName] using hname.point
  rw [child] at h
  split_ifs at h with hdirectory hdot hdots
  · exact absurd hdot hpoint.1
  · exact absurd hdots hpoint.2
  · exact (Except.ok.inj h).symm

variable {directory}

/-- **Where a file name in a directory leads**: one place below the directory, whether or not
something stands there. -/
theorem locateNew_join_eq_ok {d : Disk} {place : Place} {name? : Option String}
    (h : d.locateNew (directory.join ⟨name⟩) = .ok (place, name?)) :
    ∃ parent, checkPath (directory.join ⟨name⟩) = .ok ()
      ∧ d.follow directory = .ok parent
      ∧ d.child parent name = .ok (parent ++ [name])
      ∧ place = parent ++ [name] ∧ name? = some name := by
  rw [locateNew, bind_eq_ok_iff] at h
  obtain ⟨⟨⟩, hcheck, h⟩ := h
  simp only [names_join directory hname, start_join directory hname, List.dropLast_concat,
    List.getLast?_concat, bind_eq_ok_iff] at h
  obtain ⟨parent, hwalk, child, hchild, h⟩ := h
  obtain rfl := eq_of_child_eq_ok hname hchild
  obtain ⟨rfl, rfl⟩ := Prod.mk.inj (Except.ok.inj h)
  exact ⟨parent, hcheck, hwalk, hchild, rfl, rfl⟩

/-- **What a write of a file in a directory does.**  The way to the directory leads to a place in
`d`, and below it the file gets its content. -/
theorem write_join_eq_ok {d d' : Disk} {text : String}
    (h : d.write (directory.join ⟨name⟩) text = .ok d') :
    ∃ parent, checkPath (directory.join ⟨name⟩) = .ok ()
      ∧ d.follow directory = .ok parent
      ∧ d.child parent name = .ok (parent ++ [name])
      ∧ d.isDirectory (parent ++ [name]) = false
      ∧ d' = d.put (parent ++ [name]) (.file text.toUTF8) := by
  rw [write, bind_eq_ok_iff] at h
  obtain ⟨⟨place, name?⟩, hlocate, h⟩ := h
  obtain ⟨parent, hcheck, hwalk, hchild, rfl, rfl⟩ := locateNew_join_eq_ok hname hlocate
  simp only [endsInSlash_join directory hname, Option.all_some, hname.point, Bool.or_self,
    Bool.false_or] at h
  split_ifs at h with hdirectory
  exact ⟨parent, hcheck, hwalk, hchild, Bool.eq_false_iff.2 hdirectory, (Except.ok.inj h).symm⟩

/-- What a file name in a directory leads to. -/
theorem locate_join_eq_ok_iff {d : Disk} {place : Place} {node : Node} :
    d.locate (directory.join ⟨name⟩) = .ok (place, node) ↔
      checkPath (directory.join ⟨name⟩) = .ok () ∧ d.node? place = some node
        ∧ ∃ parent, d.follow directory = .ok parent ∧ d.child parent name = .ok place := by
  rw [locate, names_join directory hname, start_join directory hname]
  simp only [bind_eq_ok_iff, walk_concat_eq_ok_iff, endsInSlash_join directory hname,
    Bool.false_and, Bool.false_eq_true, if_false]
  constructor
  · rintro ⟨⟨⟩, hcheck, place', ⟨parent, hwalk, hchild, hsome⟩, h⟩
    obtain ⟨node', hnode⟩ := Option.isSome_iff_exists.1 hsome
    rw [hnode] at h
    obtain ⟨rfl, rfl⟩ := Prod.mk.inj (Except.ok.inj h)
    exact ⟨hcheck, hnode, parent, hwalk, hchild⟩
  · rintro ⟨hcheck, hnode, parent, hwalk, hchild⟩
    refine ⟨(), hcheck, place, ⟨parent, hwalk, hchild, by rw [hnode]; rfl⟩, ?_⟩
    rw [hnode]
    rfl

/-- **A write of a file leaves the other files of the directory alone.** -/
theorem locate_of_write_join {d d' : Disk} {text other : String} (hother : IsFileName other)
    (hne : name ≠ other) (hwrite : d.write (directory.join ⟨name⟩) text = .ok d')
    {place : Place} {node : Node}
    (hlocate : d.locate (directory.join ⟨other⟩) = .ok (place, node)) :
    d'.locate (directory.join ⟨other⟩) = .ok (place, node) := by
  obtain ⟨parent, -, hfollow, -, hfree, rfl⟩ := write_join_eq_ok hname hwrite
  obtain ⟨hcheck, hnode, parent', hfollow', hchild⟩ := (locate_join_eq_ok_iff hother).1 hlocate
  obtain rfl := Except.ok.inj (hfollow.symm.trans hfollow')
  have hkeeps := Keeps.put hfree (.file text.toUTF8)
  refine (locate_join_eq_ok_iff hother).2 ⟨hcheck, ?_, parent, hkeeps.follow hfollow,
    hkeeps.child hchild⟩
  rw [node?_put_of_ne d _ _, hnode]
  rw [eq_of_child_eq_ok hother hchild]
  exact fun heq ↦ hne (List.singleton_inj.1 (List.append_cancel_left heq)).symm

end

/-! ## Several files -/

/-- The files have been written into the directory, and nothing else has been changed. -/
structure Written (directory : Path) (files : List (String × String)) (before after : Disk) :
    Prop where
  keeps : before.Keeps after
  file : ∀ f ∈ files, ∃ parent,
    before.follow directory = .ok parent
      ∧ after.locate (directory.join ⟨f.1⟩) = .ok (parent ++ [f.1], .file f.2.toUTF8)
  frame : ∀ place,
    (∀ f ∈ files, ∀ parent, before.follow directory = .ok parent →
      place ≠ parent ++ [f.1]) →
    after.node? place = before.node? place

/-- No files. -/
theorem Written.nil (directory : Path) (d : Disk) : Written directory [] d d :=
  ⟨.refl d, fun _ h ↦ absurd h List.not_mem_nil, fun _ _ ↦ rfl⟩

/-- **One file before the others.** -/
theorem Written.cons {directory : Path} {files : List (String × String)} {d d' d'' : Disk}
    {name text : String} (hname : IsFileName name) (hnew : name ∉ files.map (·.1))
    (hwrite : d.write (directory.join ⟨name⟩) text = .ok d') (h : Written directory files d' d'') :
    Written directory ((name, text) :: files) d d'' := by
  obtain ⟨parent, hcheck, hwalk, hchild, hfree, rfl⟩ := write_join_eq_ok hname hwrite
  have hkeeps := Keeps.put hfree (.file text.toUTF8)
  have hwalk' := hkeeps.follow hwalk
  have hne : parent ++ [name] ≠ [] := List.append_ne_nil_of_right_ne_nil _ (List.cons_ne_nil _ _)
  refine ⟨hkeeps.trans h.keeps, fun f hf ↦ ?_, fun place hplace ↦ ?_⟩
  · rcases List.mem_cons.1 hf with rfl | hf
    · refine ⟨parent, hwalk, (locate_join_eq_ok_iff hname).2 ⟨hcheck, ?_, parent,
        h.keeps.follow hwalk', h.keeps.child (hkeeps.child hchild)⟩⟩
      -- None of the files that are written later is this one.
      rw [h.frame, node?_put_self _ hne]
      rintro f hf parent' hparent' heq
      obtain rfl := Except.ok.inj (hparent'.symm.trans hwalk')
      exact hnew (List.mem_map.2 ⟨f, hf, (List.singleton_inj.1 (List.append_cancel_left heq)).symm⟩)
    · obtain ⟨parent', hparent', hlocate⟩ := h.file f hf
      obtain rfl := Except.ok.inj (hparent'.symm.trans hwalk')
      exact ⟨parent', hwalk, hlocate⟩
  · rw [h.frame place fun f hf parent' hparent' ↦ ?_, node?_put_of_ne _ ?_]
    · exact hplace _ List.mem_cons_self parent hwalk
    · obtain rfl := Except.ok.inj (hparent'.symm.trans hwalk')
      exact hplace f (List.mem_cons_of_mem _ hf) parent' hwalk

/-! ## Directories -/

/-- There are new directories, and nothing else is different. -/
structure AddsDirectories (before after : Disk) : Prop where
  workingDirectory : after.workingDirectory = before.workingDirectory
  node : ∀ place, after.node? place = before.node? place
    ∨ before.node? place = none ∧ after.node? place = some .directory

namespace AddsDirectories

theorem refl (d : Disk) : d.AddsDirectories d := ⟨rfl, fun _ ↦ .inl rfl⟩

theorem trans {d d' d'' : Disk} (h : d.AddsDirectories d') (h' : d'.AddsDirectories d'') :
    d.AddsDirectories d'' := by
  refine ⟨h'.workingDirectory.trans h.workingDirectory, fun place ↦ ?_⟩
  rcases h'.node place with heq' | ⟨hnone, hnew⟩
  · rw [heq']
    exact h.node place
  · rcases h.node place with heq | ⟨hnone', hnew'⟩
    · exact .inr ⟨heq ▸ hnone, hnew⟩
    · rw [hnew'] at hnone
      cases hnone

/-- What is there stays. -/
theorem keeps {d d' : Disk} (h : d.AddsDirectories d') : d.Keeps d' := by
  refine ⟨h.workingDirectory, fun place hplace ↦ ?_, fun place hplace ↦ ?_⟩
  · rcases h.node place with heq | ⟨-, hnew⟩
    · exact heq.trans hplace
    · exact hnew
  · rcases h.node place with heq | ⟨-, hnew⟩
    · rw [heq]
      exact hplace
    · rw [hnew]
      rfl

theorem makeDirectory {d d' : Disk} {path : Path} (h : d.makeDirectory path = .ok d') :
    d.AddsDirectories d' := by
  rw [Disk.makeDirectory, bind_eq_ok_iff] at h
  obtain ⟨⟨place, name?⟩, -, h⟩ := h
  dsimp only at h
  split_ifs at h with htaken
  obtain rfl := Except.ok.inj h
  rw [Bool.or_eq_true, not_or, Option.not_isSome_iff_eq_none] at htaken
  have hne : place ≠ [] := by
    rintro rfl
    cases htaken.2
  refine ⟨rfl, fun other ↦ ?_⟩
  by_cases heq : other = place
  · rw [heq, node?_put_self d hne]
    exact .inr ⟨htaken.2, rfl⟩
  · exact .inl (node?_put_of_ne d heq _)

theorem ensureDirectory {d d' : Disk} {path : Path} (h : d.ensureDirectory path = .ok d') :
    d.AddsDirectories d' := by
  rw [Disk.ensureDirectory] at h
  cases hmake : d.makeDirectory path with
  | ok d₁ =>
    rw [hmake] at h
    obtain rfl := Except.ok.inj h
    exact makeDirectory hmake
  | error e =>
    rw [hmake] at h
    dsimp only at h
    split_ifs at h
    obtain rfl := Except.ok.inj h
    exact refl d

theorem makeTopmost {d d' : Disk} {missing missing' above : List Path}
    (h : d.makeTopmost missing above = .ok (missing', d')) : d.AddsDirectories d' := by
  induction above generalizing missing with
  | nil =>
    obtain ⟨-, rfl⟩ := Prod.mk.inj (Except.ok.inj h)
    exact refl d
  | cons path above ih =>
    rw [Disk.makeTopmost] at h
    split at h
    · rename_i hensure
      obtain ⟨-, rfl⟩ := Prod.mk.inj (Except.ok.inj h)
      exact ensureDirectory hensure
    · exact ih h
    · cases h

theorem makeEach {d : Disk} {paths : List Path} : d.AddsDirectories (d.makeEach paths).1 := by
  induction paths generalizing d with
  | nil => exact refl d
  | cons path rest ih =>
    rw [Disk.makeEach]
    split
    · rename_i hensure
      exact (ensureDirectory hensure).trans ih
    · exact refl d

/-- **Creating directories changes nothing that is there**, whether or not it succeeds. -/
theorem makeDirectories (d : Disk) (path : Path) :
    d.AddsDirectories (d.makeDirectories path).1 := by
  rw [Disk.makeDirectories]
  split
  · exact refl d
  · rename_i htopmost
    exact (makeTopmost htopmost).trans makeEach

end AddsDirectories

end Disk
end Project
end QueryBuilder
