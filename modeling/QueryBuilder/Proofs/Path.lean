import Mathlib.Data.List.Basic
import QueryBuilder.Path

/-!
# Segments and steps of paths

* `Path.segments_append_slash`, `Path.segments_of_not_mem` — a slash separates the segments, and a
  text without slashes is one segment.
* `Path.text_eq_of_components_eq` — a path that ends in a longer word, and has no step but one, is
  written as that step.
* `Path.IsName`, `Path.isName_iff` — a path that ends in a longer word is a single name exactly if it
  has no slash.
* `Path.toList_join`, `Path.filter_segments_join` — a path seen from another is written below it,
  with a slash between the two where there is need of one, and adds its segments.
-/

set_option autoImplicit false

namespace QueryBuilder
namespace Path

/-! ## Segments -/

theorem segments_ne_nil (cs : List Char) : segments cs ≠ [] := by
  cases cs with
  | nil => exact List.cons_ne_nil _ _
  | cons c rest =>
    rw [segments]
    split_ifs
    · exact List.cons_ne_nil _ _
    · split <;> exact List.cons_ne_nil _ _

theorem segments_slash (cs : List Char) : segments ('/' :: cs) = [] :: segments cs := by
  rw [segments, if_pos rfl]

/-- A character that is no slash belongs to the first segment. -/
theorem segments_cons {c : Char} (hc : c ≠ '/') {cs s : List Char} {others : List (List Char)}
    (h : segments cs = s :: others) : segments (c :: cs) = (c :: s) :: others := by
  rw [segments, if_neg hc, h]

theorem segments_append_slash (cs ds : List Char) :
    segments (cs ++ '/' :: ds) = segments cs ++ segments ds := by
  induction cs with
  | nil => exact segments_slash ds
  | cons c rest ih =>
    rw [List.cons_append]
    by_cases hc : c = '/'
    · rw [hc, segments_slash, segments_slash, ih, List.cons_append]
    · obtain ⟨s, others, hs⟩ := List.exists_cons_of_ne_nil (segments_ne_nil rest)
      rw [hs, List.cons_append] at ih
      rw [segments_cons hc hs, segments_cons hc ih, List.cons_append]

theorem segments_of_not_mem {cs : List Char} (h : '/' ∉ cs) : segments cs = [cs] := by
  induction cs with
  | nil => rfl
  | cons c rest ih =>
    rw [List.mem_cons, not_or] at h
    exact segments_cons (Ne.symm h.1) (ih h.2)

theorem eq_of_segments_eq_singleton {cs s : List Char} (h : segments cs = [s]) : cs = s := by
  induction cs generalizing s with
  | nil => exact List.singleton_inj.1 h
  | cons c rest ih =>
    obtain ⟨s', others, hs⟩ := List.exists_cons_of_ne_nil (segments_ne_nil rest)
    by_cases hc : c = '/'
    · rw [hc, segments_slash, hs] at h
      cases h
    · rw [segments_cons hc hs] at h
      obtain ⟨rfl, rfl⟩ := List.cons.inj h
      rw [ih hs]

/-- The last segment goes on with what is appended. -/
theorem exists_getLast?_segments_append (cs : List Char) {ds : List Char} (h : '/' ∉ ds) :
    ∃ s, (segments (cs ++ ds)).getLast? = some (s ++ ds) := by
  induction cs with
  | nil =>
    rw [List.nil_append, segments_of_not_mem h]
    exact ⟨[], rfl⟩
  | cons c rest ih =>
    obtain ⟨s, hs⟩ := ih
    obtain ⟨s', others, hsegments⟩ := List.exists_cons_of_ne_nil (segments_ne_nil (rest ++ ds))
    rw [hsegments] at hs
    rw [List.cons_append]
    by_cases hc : c = '/'
    · rw [hc, segments_slash, hsegments, List.getLast?_cons_cons]
      exact ⟨s, hs⟩
    · rw [segments_cons hc hsegments]
      cases others with
      | nil =>
        obtain rfl := Option.some.inj hs
        exact ⟨c :: s, rfl⟩
      | cons o others => exact ⟨s, hs⟩

/-! ## Steps -/

theorem component?_of_length {s : List Char} (h : 2 < s.length) (first : Bool) :
    component? first s = some (.normal (String.ofList s)) := by
  have hempty : s.isEmpty = false := by
    cases s with
    | nil => exact absurd h (by decide)
    | cons c rest => rfl
  have hpoint : s ≠ ['.'] := by
    rintro rfl
    exact absurd h (by decide)
  have hpoints : s ≠ ['.', '.'] := by
    rintro rfl
    exact absurd h (by decide)
  rw [component?, hempty, if_neg Bool.false_ne_true, if_neg hpoint, if_neg hpoints]

/-- The first segment of a path is a step unless it is empty. -/
theorem exists_component?_first {s : List Char} (h : s.isEmpty = false) :
    ∃ step, component? true s = some step := by
  rw [component?, h, if_neg Bool.false_ne_true, if_pos rfl]
  split_ifs
  · exact ⟨_, rfl⟩
  · exact ⟨_, rfl⟩
  · exact ⟨_, rfl⟩

/-- **A path with a single step that ends in a word is written as that step.**  The word is longer
than the points that are no steps of their own. -/
theorem text_eq_of_components_eq {p : Path} {name : String} {cs ds : List Char}
    (htext : p.text.toList = cs ++ ds) (hslash : '/' ∉ ds) (hlength : 2 < ds.length)
    (h : p.components = [.normal name]) : p.text = name := by
  have hempty : p.text.toList.isEmpty = false := by
    rw [htext, List.isEmpty_eq_false_iff]
    exact List.append_ne_nil_of_right_ne_nil _ (List.ne_nil_of_length_pos (by omega))
  have hword {s : List Char} : 2 < (s ++ ds).length := by
    rw [List.length_append]
    omega
  obtain ⟨first, rest, hsegments⟩ := List.exists_cons_of_ne_nil (segments_ne_nil p.text.toList)
  obtain ⟨s, hlast⟩ := exists_getLast?_segments_append cs hslash
  rw [← htext, hsegments] at hlast
  rw [components, componentsOf, hsegments] at h
  cases rest with
  | nil =>
    obtain rfl : p.text.toList = first := eq_of_segments_eq_singleton hsegments
    simp only [hempty, Bool.false_and, Bool.false_eq_true, if_false, List.filterMap_nil,
      List.append_nil, component?_of_length (htext ▸ hword), Option.toList_some,
      List.cons.injEq, Component.normal.injEq, and_true, String.ofList_toList] at h
    exact h
  | cons next rest =>
    -- The first segment is a step, and so is the last one: there are two of them.
    exfalso
    have hmem : Component.normal (String.ofList (s ++ ds))
        ∈ (next :: rest).filterMap (component? false) :=
      List.mem_filterMap.2 ⟨s ++ ds, List.mem_of_getLast? hlast, component?_of_length hword false⟩
    have hrest := List.length_pos_of_mem hmem
    have hfirst : (if (first.isEmpty && !p.text.toList.isEmpty) = true then [Component.root]
        else (component? true first).toList).length = 1 := by
      cases hf : first.isEmpty with
      | true => rw [hempty]; rfl
      | false =>
        obtain ⟨step, hstep⟩ := exists_component?_first hf
        rw [hstep]
        rfl
    have hone := congrArg List.length h
    rw [List.length_append, hfirst, List.length_singleton] at hone
    omega

/-! ## Single names -/

theorem not_mem_of_mem_segments {cs s : List Char} (h : s ∈ segments cs) : '/' ∉ s := by
  induction cs generalizing s with
  | nil =>
    obtain rfl := List.mem_singleton.1 h
    exact List.not_mem_nil
  | cons c rest ih =>
    obtain ⟨first, others, hs⟩ := List.exists_cons_of_ne_nil (segments_ne_nil rest)
    by_cases hc : c = '/'
    · rw [hc, segments_slash] at h
      rcases List.mem_cons.1 h with rfl | h
      · exact List.not_mem_nil
      · exact ih h
    · rw [segments_cons hc hs] at h
      rcases List.mem_cons.1 h with rfl | h
      · rw [List.mem_cons, not_or]
        exact ⟨Ne.symm hc, ih (hs ▸ List.mem_cons_self)⟩
      · exact ih (hs ▸ List.mem_cons_of_mem _ h)

theorem eq_of_component?_eq_normal {first : Bool} {segment : List Char} {name : String}
    (h : component? first segment = some (.normal name)) : name = String.ofList segment := by
  rw [component?] at h
  split_ifs at h
  · cases h
  · cases h
  · cases h
    rfl

/-- A step that is a name has no slash. -/
theorem not_mem_of_normal_mem {p : Path} {name : String}
    (h : Component.normal name ∈ p.components) : '/' ∉ name.toList := by
  have hsegment {first : Bool} {s : List Char} (hs : s ∈ segments p.text.toList)
      (hstep : component? first s = some (.normal name)) : '/' ∉ name.toList := by
    rw [eq_of_component?_eq_normal hstep, String.toList_ofList]
    exact not_mem_of_mem_segments hs
  obtain ⟨first, rest, hsegments⟩ := List.exists_cons_of_ne_nil (segments_ne_nil p.text.toList)
  rw [components, componentsOf, hsegments, List.mem_append] at h
  rcases h with h | h
  · split_ifs at h
    · cases List.mem_singleton.1 h
    · exact hsegment (hsegments ▸ List.mem_cons_self) (Option.mem_toList.1 h)
  · obtain ⟨s, hs, hstep⟩ := List.mem_filterMap.1 h
    exact hsegment (hsegments ▸ List.mem_cons_of_mem _ hs) hstep

/-- The path is one name: it has a single step, and that is none of the root, a point and two
points. -/
def IsName (p : Path) : Prop :=
  ∃ name, p.components = [.normal name]

/-- **A path that ends in a word is one name exactly if it has no slash.**  The word is longer than
the points that are no steps of their own. -/
theorem isName_iff {p : Path} {cs ds : List Char} (htext : p.text.toList = cs ++ ds)
    (hslash : '/' ∉ ds) (hlength : 2 < ds.length) : p.IsName ↔ '/' ∉ p.text.toList := by
  constructor
  · rintro ⟨name, h⟩
    rw [text_eq_of_components_eq htext hslash hlength h]
    exact not_mem_of_normal_mem (h ▸ List.mem_singleton_self _)
  · intro h
    have hword : 2 < p.text.toList.length := by
      rw [htext, List.length_append]
      omega
    have hempty : p.text.toList.isEmpty = false := by
      rw [List.isEmpty_eq_false_iff]
      exact List.ne_nil_of_length_pos (by omega)
    refine ⟨String.ofList p.text.toList, ?_⟩
    rw [components, componentsOf, segments_of_not_mem h]
    simp only [hempty, Bool.false_and, Bool.false_eq_true, if_false, List.filterMap_nil,
      List.append_nil, component?_of_length hword, Option.toList_some]

/-! ## Joins -/

theorem isAbsolute_of_not_mem {q : Path} (hslash : '/' ∉ q.text.toList) : q.isAbsolute = false := by
  rw [isAbsolute, beq_eq_false_iff_ne]
  exact fun h ↦ hslash (List.mem_of_mem_head? h)

/-- A path without slashes is written below another, after a slash where there is need of one. -/
theorem toList_join (p : Path) {q : Path} (hslash : '/' ∉ q.text.toList) :
    (p.text.toList = [] ∧ (p.join q).text.toList = q.text.toList)
      ∨ (∃ cs, p.text.toList = cs ++ ['/'] ∧ (p.join q).text.toList = cs ++ '/' :: q.text.toList)
      ∨ p.text.toList ≠ [] ∧ (p.join q).text.toList = p.text.toList ++ '/' :: q.text.toList := by
  rw [join, isAbsolute_of_not_mem hslash, if_neg Bool.false_ne_true]
  rcases List.eq_nil_or_concat' p.text.toList with hnil | ⟨cs, c, hcs⟩
  · exact .inl ⟨hnil, by simp [hnil]⟩
  · rw [hcs, List.getLast?_concat, Option.all_some]
    by_cases hc : c = '/'
    · exact .inr (.inl ⟨cs, by simp [hc], by simp [hc, hcs]⟩)
    · exact .inr (.inr ⟨by simp, by simp [hc, hcs]⟩)

theorem isAbsolute_join (p : Path) {q : Path} (hslash : '/' ∉ q.text.toList) :
    (p.join q).isAbsolute = p.isAbsolute := by
  rcases toList_join p hslash with ⟨hnil, hjoin⟩ | ⟨cs, hcs, hjoin⟩ | ⟨hne, hjoin⟩
  · have hq := isAbsolute_of_not_mem hslash
    rw [isAbsolute] at hq
    rw [isAbsolute, hjoin, hq, isAbsolute, hnil]
    rfl
  · rw [isAbsolute, isAbsolute, hjoin, hcs, List.head?_append, List.head?_append]
    rfl
  · rw [isAbsolute, isAbsolute, hjoin, List.head?_append_of_ne_nil _ hne]

theorem getLast?_join (p : Path) {q : Path} (hslash : '/' ∉ q.text.toList)
    (hne : q.text.toList ≠ []) : (p.join q).text.toList.getLast? = q.text.toList.getLast? := by
  rcases toList_join p hslash with ⟨-, hjoin⟩ | ⟨cs, -, hjoin⟩ | ⟨-, hjoin⟩
  · rw [hjoin]
  · rw [hjoin, List.getLast?_append_cons, List.getLast?_cons_of_ne_nil hne]
  · rw [hjoin, List.getLast?_append_cons, List.getLast?_cons_of_ne_nil hne]

/-- The segments that are not empty, seen from another path. -/
theorem filter_segments_join (p : Path) {q : Path} (hslash : '/' ∉ q.text.toList) :
    (segments (p.join q).text.toList).filter (fun s ↦ !s.isEmpty)
      = (segments p.text.toList).filter (fun s ↦ !s.isEmpty)
        ++ [q.text.toList].filter (fun s ↦ !s.isEmpty) := by
  rcases toList_join p hslash with ⟨hnil, hjoin⟩ | ⟨cs, hcs, hjoin⟩ | ⟨-, hjoin⟩
  · rw [hjoin, hnil, segments_of_not_mem hslash]
    rfl
  · rw [hjoin, hcs, segments_append_slash, segments_append_slash, segments_of_not_mem hslash,
      List.filter_append, List.filter_append]
    rw [show (segments []).filter (fun s ↦ !s.isEmpty) = [] from rfl, List.append_nil]
  · rw [hjoin, segments_append_slash, segments_of_not_mem hslash, List.filter_append]

end Path
end QueryBuilder
