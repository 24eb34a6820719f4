/-!
# Paths

Paths as they are written, and what they mean.

* `Path.components` — the steps of a path.  Repeated slashes, a slash at the end and points that
  are not at the start say nothing.
* `Path.same` — whether two paths have the same steps, however they are written.
* `Path.join` — a path seen from another.
* `Path.parent?` — the path without its last step.
* `Path.distinct` — the first spelling of each path in a list.
-/

set_option autoImplicit false

namespace QueryBuilder

/-- A path, as it is written. -/
structure Path where
  text : String
  deriving Repr, DecidableEq

namespace Path

/-- One step of a path. -/
inductive Component where
  /-- The root directory, the first step of an absolute path. -/
  | root
  /-- The directory itself, only as the first step. -/
  | current
  | parent
  | normal (name : String)
  deriving Repr, DecidableEq

/-- The stretches of a text between its slashes, empty ones included. -/
def segments : List Char → List (List Char)
  | [] => [[]]
  | c :: rest =>
    if c = '/' then [] :: segments rest
    else
      match segments rest with
      | [] => [[c]]
      | s :: others => (c :: s) :: others

/-- The step that a stretch between slashes is, if it is one.  A point is one only at the start of
the path. -/
def component? (first : Bool) (segment : List Char) : Option Component :=
  if segment.isEmpty then none
  else if segment = ['.'] then (if first then some .current else none)
  else if segment = ['.', '.'] then some .parent
  else some (.normal (String.ofList segment))

/-- The steps of a list of characters. -/
def componentsOf (cs : List Char) : List Component :=
  match segments cs with
  | [] => []
  | first :: rest =>
    (if first.isEmpty && !cs.isEmpty then [.root] else (component? true first).toList)
      ++ rest.filterMap (component? false)

/-- The steps of a path. -/
def components (p : Path) : List Component :=
  componentsOf p.text.toList

/-- Whether two paths have the same steps. -/
def same (p q : Path) : Bool :=
  p.components == q.components

/-- Whether a path starts at the root directory. -/
def isAbsolute (p : Path) : Bool :=
  p.text.toList.head? == some '/'

/-- The path `q` seen from `p`.  An absolute path is seen as itself. -/
def join (p q : Path) : Path :=
  if q.isAbsolute then q
  else if p.text.toList.getLast?.all (· == '/') then ⟨p.text ++ q.text⟩
  else ⟨p.text ++ "/" ++ q.text⟩

/-- The path without its last step, written as the start of this path; `none` for a path that has
no last step or only the root. -/
def parent? (p : Path) : Option Path :=
  match p.components with
  | [] | [.root] => none
  | steps =>
    let cs := p.text.toList
    let starts := (List.range (cs.length + 1)).map fun n => cs.take n
    (starts.find? fun start => componentsOf start == steps.dropLast).map (⟨String.ofList ·⟩)

/-- The first spelling of each path, in order. -/
def distinct (paths : List Path) : List Path :=
  paths.foldl (fun seen p => if seen.any (·.same p) then seen else seen ++ [p]) []

end Path

end QueryBuilder
