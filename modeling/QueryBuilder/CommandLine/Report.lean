import QueryBuilder.Schema.Graph

/-!
# Reports

Texts for a person: the summary of a schema, and words that stand out where the terminal can show
it.
-/

set_option autoImplicit false

namespace QueryBuilder
namespace CommandLine

open Schema

/-- How a word stands out. -/
inductive Style where
  | bold
  | dimmed
  | blue
  | boldGreen
  | boldYellow
  deriving Repr, DecidableEq

/-- The terminal code of a style. -/
def Style.code : Style → String
  | .bold => "1"
  | .dimmed => "2"
  | .blue => "34"
  | .boldGreen => "1;32"
  | .boldYellow => "1;33"

/-- A text in a style, if the terminal shows styles. -/
def paint (color : Bool) (style : Style) (text : String) : String :=
  if color then "\x1b[" ++ style.code ++ "m" ++ text ++ "\x1b[0m" else text

/-- The kinds in the order of a summary. -/
def summaryKinds : List TypeKind :=
  [.object, .interface, .union, .enum, .inputObject, .scalar]

/-- The number of types of a kind. -/
def countKind (g : TypeGraph) (kind : TypeKind) : Nat :=
  g.types.countP fun t => t.kind == kind

/-- The tag of a kind, filled up to a column. -/
def kindColumn (kind : TypeKind) : String :=
  kind.tag ++ String.ofList (List.replicate (14 - kind.tag.length) ' ')

/-- The line of a kind, empty if no type has it. -/
def kindLine (g : TypeGraph) (kind : TypeKind) : String :=
  if countKind g kind = 0 then "" else s!"  {kindColumn kind}{countKind g kind}\n"

/-- The line of a root type, empty if there is none. -/
def rootLine (color : Bool) (g : TypeGraph) (label : String) (root? : Option TypeId) : String :=
  match root? with
  | none => ""
  | some id => paint color .bold (label ++ ":") ++ s!" {g.nameOf id}\n"

/-- The summary of a schema: how many types of each kind there are, and the root types. -/
def summary (color : Bool) (g : TypeGraph) : String :=
  paint color .bold "Types:" ++ s!" {g.types.length}\n"
    ++ String.join (summaryKinds.map (kindLine g))
    ++ rootLine color g "query" g.roots.query?
    ++ rootLine color g "mutation" g.roots.mutation?
    ++ rootLine color g "subscription" g.roots.subscription?

end CommandLine
end QueryBuilder
