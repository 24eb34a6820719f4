import QueryBuilder.Name.Fresh

/-!
# Response keys of repeated fields

A selection set may select one field several times with different arguments.  Every occurrence must
answer under a key of its own, so each one after the first gets a generated alias.

* `AliasResolver` — the occurrences resolved so far, in order.  One resolver belongs to one
  selection set; nested sets have resolvers of their own.
* `AliasResolver.resolve` — the key of an occurrence: the bare name for the first occurrence of a
  name, the earlier key for an occurrence with an earlier *signature* (the text of its arguments),
  and otherwise `__alias_` with the first free number from the occurrence's position on.
* `isAlias` — the shape of generated aliases.
-/

set_option autoImplicit false

namespace QueryBuilder
namespace Query

/-- The field that tells the type of an object.  It is never aliased. -/
def typenameField : String := "__typename"

/-- The start of every generated alias; a number follows it. -/
def aliasStem : String := "__alias_"

/-- The generated alias with a number. -/
def aliasKey (index : Nat) : String :=
  aliasStem ++ toString index

/-- Whether a key has the shape of a generated alias: the stem and at least one digit. -/
def isAlias (key : String) : Bool :=
  aliasStem.toList.isPrefixOf key.toList
    && (match key.toList.drop aliasStem.length with
        | [] => false
        | digits => digits.all Char.isDigit)

/-- A field occurrence and the key it answers under. -/
structure Occurrence where
  field : String
  signature : String
  key : String
  deriving Repr, DecidableEq

/-- The field occurrences of one selection set, in the order in which they were resolved. -/
structure AliasResolver where
  occurrences : List Occurrence
  deriving Repr, DecidableEq

namespace AliasResolver

/-- The resolver of a selection set in which no field is selected yet. -/
def empty : AliasResolver := ⟨[]⟩

/-- The keys handed out so far. -/
def keys (r : AliasResolver) : List String :=
  r.occurrences.map (·.key)

/-- The number of distinct keys handed out so far. -/
def size (r : AliasResolver) : Nat :=
  r.keys.eraseDups.length

/-- Whether no key has been handed out. -/
def isEmpty (r : AliasResolver) : Bool :=
  r.occurrences.isEmpty

/-- The earlier occurrence of a field with the same arguments. -/
def find? (r : AliasResolver) (field signature : String) : Option Occurrence :=
  r.occurrences.find? fun o => o.field == field && o.signature == signature

/-- Whether a field has occurred, with whatever arguments. -/
def mentions (r : AliasResolver) (field : String) : Bool :=
  r.occurrences.any fun o => o.field == field

/-- The key of a new occurrence: the bare name the first time, then an alias numbered from `index`
on. -/
def newKey (r : AliasResolver) (field : String) (index : Nat) : String :=
  if r.mentions field then Name.fresh r.keys (fun i => aliasKey (index + i)) else field

/-- The key of an occurrence of `field` with the arguments `signature`, at position `index` of its
selection set, and the resolver that knows it. -/
def resolve (r : AliasResolver) (field signature : String) (index : Nat) :
    String × AliasResolver :=
  if field = typenameField then (field, r)
  else
    match r.find? field signature with
    | some earlier => (earlier.key, r)
    | none =>
      let key := r.newKey field index
      (key, ⟨r.occurrences ++ [⟨field, signature, key⟩]⟩)

end AliasResolver

end Query
end QueryBuilder
