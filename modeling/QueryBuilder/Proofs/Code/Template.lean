import Mathlib.Data.List.Basic
import QueryBuilder.Code.Composite.Print

/-!
# Lines with places for names

Whether a line of source contains a name shows when names are spelled otherwise.  A line that stays
the same under every spelling contains none.  In any other line there are places for names, between
texts that stay the same.

## What is here

* `Mention` — a name, with what it stands for.
* `Template` — a line with places for names, which `Template.print` fills in.
* `Writes` — lines under every spelling: some are templates that are filled in, and the others stay
  the same.  Every way in which units are built from lines keeps it.
* `Shows` — a name has a place in some templates.
-/

set_option autoImplicit false

namespace QueryBuilder
namespace Code

/-- A name that generated code mentions, by what it stands for. -/
inductive Mention where
  | type (ident : String)
  | builder (ident : String)
  | variants (ident : String)
  deriving DecidableEq

/-- The name, whatever it stands for. -/
def Mention.ident : Mention → String
  | .type ident | .builder ident | .variants ident => ident

/-! ## Templates -/

/-- A part of a line: a text, or the place of a name. -/
inductive Piece where
  | text (s : String)
  | name (m : Mention)
  deriving DecidableEq

/-- A line with places for names. -/
abbrev Template := List Piece

/-- What stands in a part of a line. -/
def Piece.print (spell : Mention → String) : Piece → String
  | .text s => s
  | .name m => spell m

/-- The text of a line whose places are filled in. -/
def Template.print (spell : Mention → String) (t : Template) : String :=
  String.join (t.map (Piece.print spell))

namespace Template

/-- A line in which one name stands between two texts. -/
def around (before : String) (m : Mention) (after : String) : Template :=
  [.text before, .name m, .text after]

/-- A line that opens a block. -/
def opening (t : Template) : Template :=
  t ++ [.text " \x7b"]

/-- A line that opens a block, with a name at the end. -/
def heading (text : String) (m : Mention) : Template :=
  opening [.text text, .name m]

/-- The first line of a method with a signature. -/
def publicFn (signature : Template) : Template :=
  opening (.text "pub fn " :: signature)

variable (spell : Mention → String)

@[simp]
theorem print_nil : print spell [] = "" := rfl

@[simp]
theorem print_cons (p : Piece) (t : Template) :
    print spell (p :: t) = p.print spell ++ print spell t :=
  String.join_cons

@[simp]
theorem print_append (t t' : Template) :
    print spell (t ++ t') = t.print spell ++ t'.print spell := by
  rw [print, List.map_append, String.join_append, print, print]

@[simp]
theorem print_around (before : String) (m : Mention) (after : String) :
    print spell (around before m after) = before ++ spell m ++ after := by
  simp [around, Piece.print, String.append_assoc]

theorem print_flatMap {α : Type} (l : List α) (t : α → Template) :
    print spell (l.flatMap t) = String.join (l.map fun a ↦ (t a).print spell) := by
  induction l with
  | nil => rfl
  | cons a l ih =>
    rw [List.flatMap_cons, print_append, ih, List.map_cons, String.join_cons]

end Template

/-! ## Lines -/

/-- Lines under every spelling of names: those of the templates, in this order and at some depth,
and in between lines that are always the same. -/
inductive Writes : ((Mention → String) → List Line) → List Template → Prop
  | nil : Writes (fun _ ↦ []) []
  | same {ls : (Mention → String) → List Line} {ts : List Template} (l : Line)
      (h : Writes ls ts) : Writes (fun spell ↦ l :: ls spell) ts
  | filled {ls : (Mention → String) → List Line} {ts : List Template} (depth : Nat) (t : Template)
      (h : Writes ls ts) : Writes (fun spell ↦ ⟨depth, t.print spell⟩ :: ls spell) (t :: ts)

namespace Writes

variable {ls ms : (Mention → String) → List Line} {ts us : List Template}

theorem const (ns : List Line) : Writes (fun _ ↦ ns) [] := by
  induction ns with
  | nil => exact nil
  | cons l ns ih => exact ih.same l

theorem append (h : Writes ls ts) (h' : Writes ms us) :
    Writes (fun spell ↦ ls spell ++ ms spell) (ts ++ us) := by
  induction h with
  | nil => exact h'
  | same l _ ih => exact ih.same l
  | filled depth t _ ih => exact ih.filled depth t

theorem append_const (h : Writes ls ts) (ns : List Line) :
    Writes (fun spell ↦ ls spell ++ ns) ts := by
  have := h.append (const ns)
  rwa [List.append_nil] at this

theorem const_append (ns : List Line) (h : Writes ls ts) :
    Writes (fun spell ↦ ns ++ ls spell) ts :=
  (const ns).append h

theorem indent (h : Writes ls ts) : Writes (fun spell ↦ Code.indent (ls spell)) ts := by
  induction h with
  | nil => exact nil
  | same l _ ih => exact ih.same { l with depth := l.depth + 1 }
  | filled depth t _ ih => exact ih.filled (depth + 1) t

/-- A line that has the text of a template. -/
theorem line {text : (Mention → String) → String} {t : Template}
    (h : ∀ spell, text spell = t.print spell) :
    Writes (fun spell ↦ [Code.line (text spell)]) [t] := by
  obtain rfl : text = fun spell ↦ t.print spell := funext h
  exact nil.filled 0 t

theorem braced (opening : String) (h : Writes ls ts) :
    Writes (fun spell ↦ Code.braced opening (ls spell)) ts :=
  (h.indent.append_const _).same _

/-- A block that is opened with a template. -/
theorem braced_line {opening : (Mention → String) → String} {t : Template}
    (ht : ∀ spell, opening spell = t.print spell) (h : Writes ls ts) :
    Writes (fun spell ↦ Code.braced (opening spell) (ls spell)) (t.opening :: ts) :=
  (line fun spell ↦ by simp [ht, Template.opening, Piece.print]).append (h.indent.append_const _)

/-- A block whose opening line ends with a name. -/
theorem headed (text : String) (m : Mention) (h : Writes ls ts) :
    Writes (fun spell ↦ Code.braced (text ++ spell m) (ls spell)) (.heading text m :: ts) :=
  braced_line (fun spell ↦ by simp [Piece.print]) h

/-- A method whose opening line is a template. -/
theorem publicFn {signature : (Mention → String) → String} {t : Template}
    (ht : ∀ spell, signature spell = t.print spell) (h : Writes ls ts) :
    Writes (fun spell ↦ Code.publicFn (signature spell) (ls spell)) (t.publicFn :: ts) :=
  braced_line (fun spell ↦ by simp [ht, Piece.print, toString]) h

/-- Two methods with names in their opening lines only, and the lines in front of each. -/
theorem publicFn_publicFn {signature signature' : (Mention → String) → String} {t t' : Template}
    (ht : ∀ spell, signature spell = t.print spell)
    (ht' : ∀ spell, signature' spell = t'.print spell) (doc body doc' note body' : List Line) :
    Writes (fun spell ↦ doc ++ Code.publicFn (signature spell) body ++ doc' ++ note
      ++ Code.publicFn (signature' spell) body') [t.publicFn, t'.publicFn] := by
  have hfirst := (publicFn ht (const body)).const_append doc
  have hsecond := publicFn ht' (const body')
  exact ((hfirst.append_const doc').append_const note).append hsecond

theorem flatMap {α : Type} {ls : α → (Mention → String) → List Line} {ts : α → List Template}
    (h : ∀ a, Writes (ls a) (ts a)) (l : List α) :
    Writes (fun spell ↦ l.flatMap fun a ↦ ls a spell) (l.flatMap ts) := by
  induction l with
  | nil => exact nil
  | cons a l ih => exact (h a).append ih

theorem map {α : Type} {text : α → (Mention → String) → String} {t : α → Template}
    (h : ∀ a spell, text a spell = (t a).print spell) (l : List α) :
    Writes (fun spell ↦ l.map fun a ↦ Code.line (text a spell)) (l.map t) := by
  induction l with
  | nil => exact nil
  | cons a l ih => exact (line (h a)).append ih

theorem spaced {α : Type} {ls : α → (Mention → String) → List Line} {ts : α → List Template}
    (h : ∀ a, Writes (ls a) (ts a)) (l : List α) :
    Writes (fun spell ↦ Code.spaced (l.map fun a ↦ ls a spell)) (l.flatMap ts) := by
  simp only [Code.spaced, List.flatMap_map]
  exact flatMap (fun a ↦ (h a).same blank) l

/-- The templates are there, filled in. -/
theorem sublist (h : Writes ls ts) (spell : Mention → String) :
    (ts.map fun t ↦ t.print spell).Sublist ((ls spell).map (·.text)) := by
  induction h with
  | nil => exact .slnil
  | same l _ ih => exact ih.cons l.text
  | filled depth t _ ih => exact ih.cons_cons (t.print spell)

end Writes

/-! ## Names in templates -/

section

variable {m : Mention} {t : Template} {ts us : List Template}

@[simp]
theorem name_mem_opening : .name m ∈ t.opening ↔ .name m ∈ t := by
  simp [Template.opening]

end

end Code
end QueryBuilder
