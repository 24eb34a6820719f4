import QueryBuilder.Schema.Graph
import QueryBuilder.Text.Blank
import QueryBuilder.Text.Quoted

/-!
# Lines of source

Generated source is a list of lines, each with its depth.  A step of depth is four spaces, and an
empty line is not indented.

* `block` — lines between an opening and a closing one.
* `docLines` — a description as documentation comments.
* `deprecationLines` — the attribute of a deprecated item.
* `headerLines` — the comment at the top of a unit and the empty line behind it.
* `printLines` — the text of a list of lines.
-/

set_option autoImplicit false

namespace QueryBuilder
namespace Code

/-- A line of source. -/
structure Line where
  depth : Nat
  text : String
  deriving Repr, DecidableEq

/-- The text of a line, with its line break. -/
def Line.print (l : Line) : String :=
  if l.text.isEmpty then "\n"
  else String.join (List.replicate l.depth "    ") ++ l.text ++ "\n"

/-- The text of a list of lines. -/
def printLines (ls : List Line) : String :=
  String.join (ls.map Line.print)

/-- A line that is not indented. -/
def line (text : String) : Line := ⟨0, text⟩

/-- The empty line. -/
def blank : Line := line ""

/-- Lines one step deeper. -/
def indent (ls : List Line) : List Line :=
  ls.map fun l => { l with depth := l.depth + 1 }

/-- Indented lines between an opening and a closing line. -/
def block (opening : String) (body : List Line) (closing : String) : List Line :=
  line opening :: (indent body ++ [line closing])

/-- Indented lines between an opening line, which gets a brace at its end, and a closing brace. -/
def braced (opening : String) (body : List Line) : List Line :=
  block (opening ++ " \x7b") body "\x7d"

/-- A line of a description as a comment. -/
def docLine (text : String) : Line :=
  let text := Text.trimEnd text
  line (if text.isEmpty then "///" else "/// " ++ text)

/-- A description as documentation comments.  One that is blank is left out. -/
def docLines (description? : Option String) : List Line :=
  match description? with
  | none => []
  | some description => (Text.lines (Text.trim description)).map docLine

/-- The attribute of a deprecated item. -/
def deprecationLines : Option Schema.Deprecation → List Line
  | none => []
  | some ⟨none⟩ => [line "#[deprecated]"]
  | some ⟨some reason⟩ => [line s!"#[deprecated(note = {Text.quoted reason})]"]

/-- The comment at the top of a unit and the empty line behind it. -/
def headerLines (header : String) : List Line :=
  if header.isEmpty then [] else (Text.lines header).map line ++ [blank]

end Code
end QueryBuilder
