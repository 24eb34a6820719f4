import QueryBuilder.Text.Run

/-!
# Blanks and lines

* `isBlank` — the white space of the Unicode character database, 25 characters.
* `trim`, `trimEnd` — a text without the blanks around it, or after it.
* `lines` — the lines of a text.  A line ends at a line feed, with or without a carriage return
  before it; a last line feed does not open another line.
-/

set_option autoImplicit false

namespace QueryBuilder
namespace Text

/-- The code points of white space. -/
def blankRuns : List Run := [
  ⟨0x09, 0x0D, 1⟩, ⟨0x20, 0x20, 1⟩, ⟨0x85, 0x85, 1⟩, ⟨0xA0, 0xA0, 1⟩, ⟨0x1680, 0x1680, 1⟩,
  ⟨0x2000, 0x200A, 1⟩, ⟨0x2028, 0x2029, 1⟩, ⟨0x202F, 0x202F, 1⟩, ⟨0x205F, 0x205F, 1⟩,
  ⟨0x3000, 0x3000, 1⟩]

/-- Whether a character is white space. -/
def isBlank (c : Char) : Bool :=
  Run.anyContains blankRuns c.toNat

/-- The characters up to the last one that is no blank. -/
def trimEndChars (cs : List Char) : List Char :=
  (cs.reverse.dropWhile isBlank).reverse

/-- The text without the blanks at its end. -/
def trimEnd (s : String) : String :=
  String.ofList (trimEndChars s.toList)

/-- The text without the blanks at either end. -/
def trim (s : String) : String :=
  String.ofList (trimEndChars (s.toList.dropWhile isBlank))

/-- The lines of a list of characters. -/
def lineChars : List Char → List (List Char)
  | [] => []
  | '\n' :: cs => [] :: lineChars cs
  | '\r' :: '\n' :: cs => [] :: lineChars cs
  | c :: cs =>
    match lineChars cs with
    | [] => [[c]]
    | line :: rest => (c :: line) :: rest

/-- The lines of a text, without their line breaks. -/
def lines (s : String) : List String :=
  (lineChars s.toList).map String.ofList

end Text
end QueryBuilder
