import QueryBuilder.Query.Alias
import QueryBuilder.Query.Value

/-!
# Selection sets

What a query selects of an object: fields with their arguments and nested selections, and inline
fragments on the possible types of the object.

* `Selection`, `SelectionSet` — the tree.  Each set carries the resolver that gave its fields their
  response keys.
* `SelectionSet.merge` — adds every selection of one set to another.  The function recurses on the
  set that is added: a selection that is already there takes in the nested selections of the new
  one.
* `SelectionSet.addField`, `addTypename`, `addFragment` — what a query builder calls.
* `SelectionSet.render` — the text of a set.
-/

set_option autoImplicit false

namespace QueryBuilder
namespace Query

mutual

/-- One entry of a selection set. -/
inductive Selection where
  /-- A field, with an alias if the bare name belongs to an occurrence with other arguments. -/
  | field (name : String) (alias? : Option String) (arguments : List Argument)
      (nested : Option SelectionSet)
  /-- Selections for the case that the object has a certain type. -/
  | fragment (typeCondition : String) (nested : SelectionSet)

/-- An ordered set of selections, and the resolver of their response keys. -/
inductive SelectionSet where
  | mk (selections : List Selection) (aliases : AliasResolver)

end

namespace Selection

/-- The key a field answers under; a fragment has none. -/
def responseKey? : Selection → Option String
  | .field name alias? _ _ => some (alias?.getD name)
  | .fragment .. => none

/-- Whether the selection is the field that answers under a key. -/
def answersUnder (key : String) (s : Selection) : Bool :=
  s.responseKey? == some key

/-- Whether the selection is the fragment on a type. -/
def isFragmentOn (typeCondition : String) : Selection → Bool
  | .field .. => false
  | .fragment condition _ => condition == typeCondition

/-- Replaces what is selected below a field. -/
def mapNested (f : Option SelectionSet → Option SelectionSet) : Selection → Selection
  | .field name alias? arguments nested => .field name alias? arguments (f nested)
  | .fragment condition nested => .fragment condition nested

/-- Replaces what is selected in a fragment. -/
def mapFragment (f : SelectionSet → SelectionSet) : Selection → Selection
  | .field name alias? arguments nested => .field name alias? arguments nested
  | .fragment condition nested => .fragment condition (f nested)

end Selection

/-- Changes the first entry that passes a test, `none` if no entry does. -/
def modifyFirst {α : Type} (test : α → Bool) (change : α → α) : List α → Option (List α)
  | [] => none
  | a :: rest =>
    if test a then some (change a :: rest) else (modifyFirst test change rest).map (a :: ·)

namespace SelectionSet

/-- The selections of a set, in order. -/
def selections : SelectionSet → List Selection
  | .mk selections _ => selections

/-- The resolver of a set. -/
def aliases : SelectionSet → AliasResolver
  | .mk _ aliases => aliases

/-- The set that selects nothing. -/
def empty : SelectionSet := .mk [] .empty

/-- Whether nothing is selected. -/
def isEmpty (set : SelectionSet) : Bool :=
  set.selections.isEmpty

/-- The response key of an occurrence of a field in a set, and the resolver that knows it. -/
def resolve (set : SelectionSet) (name : String) (arguments : List Argument) :
    String × AliasResolver :=
  set.aliases.resolve name (renderArguments arguments) set.selections.length

/-- Adds an occurrence of a field.  If a field answers under its key already, `change` adapts what
is selected below that field; else the occurrence becomes the last selection. -/
def place (set : SelectionSet) (name : String) (arguments : List Argument)
    (nested : Option SelectionSet) (change : Option SelectionSet → Option SelectionSet) :
    SelectionSet :=
  let (key, aliases) := set.resolve name arguments
  match modifyFirst (·.answersUnder key) (·.mapNested change) set.selections with
  | some changed => .mk changed aliases
  | none =>
    let alias? := if key = name then none else some key
    .mk (set.selections ++ [.field name alias? arguments nested]) aliases

/-- Adds a fragment.  If there is a fragment on the type already, `change` adapts its selections;
else the fragment becomes the last selection. -/
def placeFragment (set : SelectionSet) (typeCondition : String) (nested : SelectionSet)
    (change : SelectionSet → SelectionSet) : SelectionSet :=
  match modifyFirst (·.isFragmentOn typeCondition) (·.mapFragment change) set.selections with
  | some changed => .mk changed set.aliases
  | none => .mk (set.selections ++ [.fragment typeCondition nested]) set.aliases

mutual

/-- Adds every selection of a second set to a set. -/
def merge (set : SelectionSet) : SelectionSet → SelectionSet
  | .mk selections _ => mergeAll set selections
termination_by structural added => added

/-- Adds a list of selections to a set. -/
def mergeAll (set : SelectionSet) : List Selection → SelectionSet
  | [] => set
  | s :: rest => mergeAll (mergeOne set s) rest
termination_by structural added => added

/-- Adds one selection to a set. -/
def mergeOne (set : SelectionSet) : Selection → SelectionSet
  | .field name _ arguments nested =>
    set.place name arguments nested (fun earlier => mergeBelow earlier nested)
  | .fragment condition nested =>
    set.placeFragment condition nested (fun earlier => merge earlier nested)
termination_by structural added => added

/-- What is selected below a field that occurs again. -/
def mergeBelow (earlier : Option SelectionSet) : Option SelectionSet → Option SelectionSet
  | none => earlier
  | some nested =>
    match earlier with
    | none => some nested
    | some set => some (merge set nested)
termination_by structural added => added

end

/-- Selects a field.  The first component is the key the occurrence answers under.  A field that is
selected again with the same arguments takes in the nested selections; with other arguments it
becomes an aliased occurrence. -/
def addField (set : SelectionSet) (name : String) (arguments : List Argument)
    (nested : Option SelectionSet) : String × SelectionSet :=
  ((set.resolve name arguments).1, set.mergeOne (.field name none arguments nested))

/-- Selects `__typename` once. -/
def addTypename (set : SelectionSet) : SelectionSet :=
  (set.addField typenameField [] none).2

/-- Adds an inline fragment, merging it with an earlier one on the same type. -/
def addFragment (set : SelectionSet) (typeCondition : String) (nested : SelectionSet) :
    SelectionSet :=
  set.mergeOne (.fragment typeCondition nested)

/-- The set that selects `__typename` and nothing else.  Selections on interfaces and unions start
with it, so that the type of every object in the response is known. -/
def withTypename : SelectionSet :=
  empty.addTypename

/-! ## Text -/

mutual

/-- The text of a set, between braces. -/
def render : SelectionSet → String
  | .mk selections _ => "\x7b" ++ renderAll selections ++ " \x7d"

/-- The text of a list of selections, a space before each. -/
def renderAll : List Selection → String
  | [] => ""
  | s :: rest => " " ++ renderOne s ++ renderAll rest

/-- The text of one selection. -/
def renderOne : Selection → String
  | .field name alias? arguments nested =>
    (match alias? with
      | none => ""
      | some key => key ++ ": ")
    ++ name ++ renderArguments arguments ++ renderBelow nested
  | .fragment condition nested => "... on " ++ condition ++ " " ++ render nested

/-- The text of what is selected below a field. -/
def renderBelow : Option SelectionSet → String
  | none => ""
  | some nested => " " ++ render nested

end

end SelectionSet

end Query
end QueryBuilder
