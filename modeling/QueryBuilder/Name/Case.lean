import QueryBuilder.Text.Letter

/-!
# Casing conventions

A schema names things in any convention; generated code follows its own.  Methods, parameters and
members are written in snake case, enum variants in Pascal case, and type names as they are.

* `snakeChars` — one pass with the previous character at hand.  An underscore goes before a
  capital that ends a run of small letters or digits, and before the last capital of a run that a
  small letter follows, so that acronyms stay together: `userID` becomes `user_id` and
  `HTMLParser` becomes `html_parser`.
* `pascalChars` — the words between underscores, each with a capital first letter.  A word without
  small letters is lowered after its first letter: `IN_PROGRESS` becomes `InProgress`.
* `Case.apply` — the convention as a function on names.
-/

set_option autoImplicit false

namespace QueryBuilder
namespace Name

open Text

/-- A casing convention. -/
inductive Case where
  | snake
  | pascal
  | verbatim
  deriving Repr, DecidableEq

/-! ## Snake case -/

/-- Whether a word starts at a capital letter that stands between these two characters. -/
def startsWord (before after : Option Char) : Bool :=
  match before with
  | none => false
  | some b => isLower b || b.isDigit || (isUpper b && after.any isLower)

/-- Snake case of the characters that follow `before`. -/
def snakeChars (before : Option Char) : List Char → List Char
  | [] => []
  | c :: rest =>
    if isUpper c then
      (if startsWord before rest.head? then ['_'] else []) ++ toLower c ++ snakeChars (some c) rest
    else
      c :: snakeChars (some c) rest

/-- The name in snake case. -/
def snake (name : String) : String :=
  String.ofList (snakeChars none name.toList)

/-! ## Pascal case -/

/-- The stretches of a name between its underscores, empty ones included. -/
def segments : List Char → List (List Char)
  | [] => [[]]
  | c :: rest =>
    if c = '_' then [] :: segments rest
    else
      match segments rest with
      | [] => [[c]]
      | s :: others => (c :: s) :: others

/-- The words of a name: its longest stretches without underscores. -/
def words (cs : List Char) : List (List Char) :=
  (segments cs).filter (fun s => !s.isEmpty)

/-- A word with a capital first letter, lowered behind it if it shouts. -/
def capitalize : List Char → List Char
  | [] => []
  | c :: rest =>
    toUpper c ++ (if (c :: rest).any isLower then rest else rest.flatMap toLower)

/-- Pascal case of a list of characters.  A name without words is `Unnamed`, and a digit at the
start is kept off it by an underscore. -/
def pascalChars (cs : List Char) : List Char :=
  match (words cs).flatMap capitalize with
  | [] => "Unnamed".toList
  | c :: rest => if c.isDigit then '_' :: c :: rest else c :: rest

/-- The name in Pascal case. -/
def pascal (name : String) : String :=
  String.ofList (pascalChars name.toList)

/-- The name in a convention. -/
def Case.apply : Case → String → String
  | .snake, name => Name.snake name
  | .pascal, name => Name.pascal name
  | .verbatim, name => name

end Name
end QueryBuilder
