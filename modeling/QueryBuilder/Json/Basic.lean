/-!
# JSON values

Schemas, configurations and responses are JSON documents.  An object keeps its members sorted by
key and has every key once, so two spellings of one object are one value, and every order that
depends on an object's members is the order of its keys.

* `Json` — a value.  Whole numbers that fit 64 bits and numbers with a fraction or exponent are
  kept apart, for the decoders tell them apart.
* `Json.insertMember` — sets a member; of a repeated key the last value stays.
* `Json.member?` — the member of an object.
* `Json.depth` — how deep containers are nested.
-/

set_option autoImplicit false

namespace QueryBuilder

/-- A JSON value. -/
inductive Json where
  | null
  | bool (b : Bool)
  | int (n : Int)
  | float (x : Float)
  | string (s : String)
  | array (items : List Json)
  | object (members : List (String × Json))
  deriving Inhabited

namespace Json

/-- Sets a member in a list of members sorted by key. -/
def insertMember (key : String) (value : Json) : List (String × Json) → List (String × Json)
  | [] => [(key, value)]
  | (other, old) :: rest =>
    if key = other then (key, value) :: rest
    else if key < other then (key, value) :: (other, old) :: rest
    else (other, old) :: insertMember key value rest

/-- The object with the given members; of a repeated key the last one stays. -/
def ofMembers (members : List (String × Json)) : Json :=
  .object (members.foldl (fun sorted m => insertMember m.1 m.2 sorted) [])

/-- The value of a key in a list of members. -/
def findMember? (key : String) (members : List (String × Json)) : Option Json :=
  (members.find? (fun m => m.1 == key)).map (·.2)

/-- The member of an object; `none` also for what is not an object. -/
def member? (key : String) : Json → Option Json
  | .object members => findMember? key members
  | _ => none

mutual

/-- The nesting depth of a value. -/
def depth : Json → Nat
  | .array items => depthItems items + 1
  | .object members => depthMembers members + 1
  | _ => 0

/-- The greatest depth of a list of values. -/
def depthItems : List Json → Nat
  | [] => 0
  | item :: rest => max (depth item) (depthItems rest)

/-- The greatest depth of the values of a list of members. -/
def depthMembers : List (String × Json) → Nat
  | [] => 0
  | (_, value) :: rest => max (depth value) (depthMembers rest)

end

end Json

end QueryBuilder
