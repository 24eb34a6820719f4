import QueryBuilder.Proofs.Query.Hereditary
import QueryBuilder.Proofs.Query.ValueText

/-!
# Texts of selection sets are unambiguous

No two trees of selections have the same text.  Reading from the left, every choice is settled by
the next character or two: a selection starts with a name or with dots, a colon tells an alias from
a name, an opening parenthesis starts arguments, and behind a space an opening brace starts what is
selected below a field, a closing one ends the set, and anything else is the next selection.

## What is here

* `Tree`, `SelectionSet.trees` — the selections of a set, without the resolvers.
* `SelectionSet.WellNamed` — whatever belongs in the place of a name is one, at every depth.
* `SelectionSet.render_append_inj` — two sets at the start of the same text have equal trees.
* `SelectionSet.trees_eq_of_render_eq` — the text of a set that can be built determines its tree.
-/

set_option autoImplicit false

namespace QueryBuilder
namespace Query

open Name

/-! ## Trees -/

/-- A selection and everything below it, without the resolvers of the sets inside. -/
inductive Tree where
  | field (name : String) (alias? : Option String) (arguments : List Argument)
      (below? : Option (List Tree))
  | fragment (typeCondition : String) (below : List Tree)

namespace SelectionSet

mutual

/-- The trees of the selections of a set, in order. -/
def trees : SelectionSet → List Tree
  | .mk selections _ => treesAll selections

/-- The trees of a list of selections. -/
def treesAll : List Selection → List Tree
  | [] => []
  | s :: rest => treeOne s :: treesAll rest

/-- The tree of a selection. -/
def treeOne : Selection → Tree
  | .field name alias? arguments nested => .field name alias? arguments (treesBelow nested)
  | .fragment condition nested => .fragment condition (trees nested)

/-- The trees of what is selected below a field. -/
def treesBelow : Option SelectionSet → Option (List Tree)
  | none => none
  | some nested => some (trees nested)

end

end SelectionSet

/-! ## Names -/

/-- The field and its arguments, or the type of the fragment, have names where names belong. -/
def Selection.WellNamed : Selection → Prop
  | .field name _ arguments _ => isName name = true ∧ ∀ a ∈ arguments, a.WellNamed
  | .fragment typeCondition _ => isName typeCondition = true

/-- The selections of the set, and of the sets inside it, have names where names belong. -/
def SelectionSet.WellNamed : SelectionSet → Prop :=
  SelectionSet.Hereditary fun set ↦ ∀ s ∈ set.selections, s.WellNamed

/-- The field has a name for its alias, if it has one. -/
def Selection.AliasNamed : Selection → Prop
  | .field _ alias? _ _ => ∀ key ∈ alias?, isName key = true
  | .fragment _ _ => True

/-- The text of the selection can be read: there are names where names belong, aliases included. -/
structure Selection.Readable (s : Selection) : Prop where
  wellNamed : s.WellNamed
  aliasNamed : s.AliasNamed

/-- An alias is a name. -/
theorem isName_of_isAlias {key : String} (h : isAlias key = true) : isName key = true := by
  rw [isAlias, Bool.and_eq_true, List.isPrefixOf_iff_prefix] at h
  obtain ⟨⟨digits, hkey⟩, hdigits⟩ := h
  have hdrop : key.toList.drop aliasStem.length = digits := by
    rw [← hkey]
    exact List.drop_left
  rw [hdrop] at hdigits
  have hall : ∀ c ∈ digits, c.isDigit = true := by
    cases digits with
    | nil => cases hdigits
    | cons d rest => exact List.all_eq_true.1 hdigits
  refine isName_iff.2 ⟨'_', "_alias_".toList ++ digits, hkey.symm, by decide, fun c hc ↦ ?_⟩
  rcases List.mem_append.1 hc with hc | hc
  · exact isNameChar_of_isName (show isName "_alias_" = true by decide) hc
  · simp [isNameChar, Char.isAlphanum, hall c hc]

namespace SelectionSet

/-- The text of the set can be read, as far as it is not inside another set. -/
def Readable (set : SelectionSet) : Prop :=
  ∀ s ∈ set.selections, s.Readable

theorem Hereditary.readable {set : SelectionSet}
    (hnames : set.Hereditary fun set ↦ ∀ s ∈ set.selections, s.WellNamed)
    (hshaped : set.Hereditary Shaped) : set.Hereditary Readable := by
  induction hnames with
  | @mk set hset _ ih =>
    refine .mk (fun s hs ↦ ⟨hset s hs, ?_⟩) fun s hs below hbelow ↦
      ih s hs below hbelow (hshaped.of_below? hs hbelow)
    cases s with
    | field name alias? arguments nested =>
      rintro key rfl
      exact isName_of_isAlias (hshaped.self.aliases name key _ (List.mem_map_of_mem hs))
    | fragment condition nested => trivial

/-! ## Texts as lists of characters -/

theorem toList_render (selections : List Selection) (aliases : AliasResolver) :
    (mk selections aliases).render.toList
      = '\x7b' :: ((renderAll selections).toList ++ [' ', '\x7d']) := by
  rw [render, String.toList_append, String.toList_append]
  rfl

theorem toList_renderAll_cons (s : Selection) (rest : List Selection) :
    (renderAll (s :: rest)).toList = ' ' :: ((renderOne s).toList ++ (renderAll rest).toList) := by
  rw [renderAll, String.toList_append, String.toList_append]
  rfl

/-- What stands before the name of a field. -/
def labelText : Option String → List Char
  | none => []
  | some key => key.toList ++ [':', ' ']

theorem toList_renderOne_field (name : String) (alias? : Option String)
    (arguments : List Argument) (nested : Option SelectionSet) :
    (renderOne (.field name alias? arguments nested)).toList
      = labelText alias? ++ (name.toList ++ ((renderArguments arguments).toList
        ++ (renderBelow nested).toList)) := by
  cases alias? <;> simp [renderOne, labelText]

theorem toList_renderOne_fragment (condition : String) (nested : SelectionSet) :
    (renderOne (.fragment condition nested)).toList
      = "... on ".toList ++ (condition.toList ++ ' ' :: nested.render.toList) := by
  simp [renderOne]

theorem toList_renderBelow_some (nested : SelectionSet) :
    (renderBelow (some nested)).toList = ' ' :: nested.render.toList := by
  rw [renderBelow, String.toList_append]
  rfl

/-! ## What follows a selection -/

/-- The text goes on with another selection or with the end of the set. -/
def Follows (text : List Char) : Prop :=
  ∃ c rest, text = ' ' :: c :: rest ∧ c ≠ '\x7b'

/-- A field starts with its alias or its name. -/
theorem startOf?_field {alias? : Option String} {name : String} (hname : isName name = true)
    (halias : ∀ key ∈ alias?, isName key = true) (rest : List Char) :
    startOf? (labelText alias? ++ (name.toList ++ rest)) = some .word := by
  cases alias? with
  | none => exact startOf?_append (startOf?_of_isName hname) rest
  | some key =>
    rw [labelText, List.append_assoc]
    exact startOf?_append (startOf?_of_isName (halias key rfl)) _

theorem field_append_ne_dot {alias? : Option String} {name : String} (hname : isName name = true)
    (halias : ∀ key ∈ alias?, isName key = true) (rest rest' : List Char) :
    labelText alias? ++ (name.toList ++ rest) ≠ '.' :: rest' :=
  ne_cons_of_startOf? (startOf?_field hname halias rest) (by decide) rest'

/-- A selection does not start with a brace. -/
theorem exists_start {s : Selection} (hs : s.Readable) :
    ∃ c text, (renderOne s).toList = c :: text ∧ c ≠ '\x7b' ∧ c ≠ '\x7d' := by
  cases s with
  | field name alias? arguments nested =>
    have hstart := startOf?_field hs.wellNamed.1 hs.aliasNamed
      ((renderArguments arguments).toList ++ (renderBelow nested).toList)
    rw [← toList_renderOne_field] at hstart
    obtain ⟨c, text, htext, hc⟩ := exists_cons_of_startOf? hstart
    refine ⟨c, text, htext, ?_, ?_⟩
    · rintro rfl
      exact absurd hc (by decide)
    · rintro rfl
      exact absurd hc (by decide)
  | fragment condition nested =>
    exact ⟨'.', _, toList_renderOne_fragment condition nested, by decide, by decide⟩

theorem follows_renderAll {selections : List Selection}
    (h : ∀ s ∈ selections, s.Readable) (rest : List Char) :
    Follows ((renderAll selections).toList ++ ' ' :: '\x7d' :: rest) := by
  cases selections with
  | nil => exact ⟨'\x7d', rest, rfl, by decide⟩
  | cons s others =>
    obtain ⟨c, text, hc, hbrace, -⟩ := exists_start (h s List.mem_cons_self)
    refine ⟨c, text ++ (renderAll others).toList ++ ' ' :: '\x7d' :: rest, ?_, hbrace⟩
    rw [toList_renderAll_cons, hc]
    rfl

/-- What stands below a field and behind it starts with a space. -/
theorem exists_space {nested : Option SelectionSet} {rest : List Char} (hrest : Follows rest) :
    ∃ text, (renderBelow nested).toList ++ rest = ' ' :: text := by
  cases nested with
  | none =>
    obtain ⟨c, text, rfl, -⟩ := hrest
    exact ⟨c :: text, rfl⟩
  | some nested =>
    rw [toList_renderBelow_some]
    exact ⟨_, rfl⟩

theorem ne_parenthesis_of_space {rest : List Char} (h : ∃ text, rest = ' ' :: text) :
    ∀ text, rest ≠ '(' :: text := by
  obtain ⟨text, rfl⟩ := h
  exact fun _ h ↦ absurd (List.cons.inj h).1 (by decide)

/-! ## Parts of a selection -/

/-- Behind the name of a field there are arguments or a space. -/
theorem endsName_arguments (arguments : List Argument) {rest : List Char}
    (hrest : ∃ text, rest = ' ' :: text) :
    EndsWord ((renderArguments arguments).toList ++ rest)
      ∧ ∀ text, (renderArguments arguments).toList ++ rest ≠ ':' :: text := by
  rcases eq_or_ne arguments [] with rfl | hne
  · obtain ⟨text, rfl⟩ := hrest
    exact ⟨endsWord_cons (by decide) _, fun _ h ↦ absurd (List.cons.inj h).1 (by decide)⟩
  · rw [toList_renderArguments hne]
    exact ⟨endsWord_cons (by decide) _, fun _ h ↦ absurd (List.cons.inj h).1 (by decide)⟩

/-- A colon behind the first name tells whether it is an alias. -/
theorem label_append_inj {alias? alias'? : Option String} {name name' : String}
    (hname : isName name = true) (hname' : isName name' = true)
    (halias : ∀ key ∈ alias?, isName key = true) (halias' : ∀ key ∈ alias'?, isName key = true)
    {rest rest' : List Char} (hrest : EndsWord rest ∧ ∀ text, rest ≠ ':' :: text)
    (hrest' : EndsWord rest' ∧ ∀ text, rest' ≠ ':' :: text)
    (h : labelText alias? ++ (name.toList ++ rest) = labelText alias'? ++ (name'.toList ++ rest')) :
    alias? = alias'? ∧ name = name' ∧ rest = rest' := by
  cases alias? with
  | none =>
    cases alias'? with
    | none => exact ⟨rfl, name_append_inj hname hname' hrest.1 hrest'.1 h⟩
    | some key =>
      rw [labelText, labelText, List.append_assoc] at h
      obtain ⟨-, hcolon⟩ := name_append_inj hname (halias' key rfl) hrest.1
        (endsWord_cons (by decide) _) h
      exact absurd hcolon (hrest.2 _)
  | some key =>
    rw [labelText, List.append_assoc] at h
    cases alias'? with
    | none =>
      obtain ⟨-, hcolon⟩ := name_append_inj (halias key rfl) hname' (endsWord_cons (by decide) _)
        hrest'.1 h
      exact absurd hcolon.symm (hrest'.2 _)
    | some key' =>
      rw [labelText, List.append_assoc] at h
      obtain ⟨rfl, htail⟩ := name_append_inj (halias key rfl) (halias' key' rfl)
        (endsWord_cons (by decide) _) (endsWord_cons (by decide) _) h
      exact ⟨rfl, name_append_inj hname hname' hrest.1 hrest'.1
        (List.cons.inj (List.cons.inj htail).2).2⟩

/-- A brace behind the space tells whether there is anything selected below a field. -/
theorem renderBelow_append_inj {nested nested' : Option SelectionSet} {rest rest' : List Char}
    (hinner : ∀ below ∈ nested, ∀ below' ∈ nested', ∀ rest rest',
      below.render.toList ++ rest = below'.render.toList ++ rest' →
      below.trees = below'.trees ∧ rest = rest')
    (hrest : Follows rest) (hrest' : Follows rest')
    (h : (renderBelow nested).toList ++ rest = (renderBelow nested').toList ++ rest') :
    treesBelow nested = treesBelow nested' ∧ rest = rest' := by
  have hbrace : ∀ {below : SelectionSet} {rest text : List Char}, Follows rest →
      rest ≠ (renderBelow (some below)).toList ++ text := by
    rintro ⟨selections, aliases⟩ rest text ⟨c, front, rfl, hc⟩ h
    rw [toList_renderBelow_some, toList_render] at h
    exact hc (List.cons.inj (List.cons.inj h).2).1
  cases nested with
  | none =>
    cases nested' with
    | none => exact ⟨rfl, h⟩
    | some below' => exact absurd h (hbrace hrest)
  | some below =>
    cases nested' with
    | none => exact absurd h.symm (hbrace hrest')
    | some below' =>
      rw [toList_renderBelow_some, toList_renderBelow_some] at h
      exact (hinner below rfl below' rfl rest rest' (List.cons.inj h).2).imp_left (congrArg some)

/-! ## Selections -/

/-- A selection is unambiguous if what is below it is. -/
theorem renderOne_append_inj {s s' : Selection} (hs : s.Readable)
    (hs' : s'.Readable)
    (hinner : ∀ below ∈ s.below?, ∀ below' ∈ s'.below?, ∀ rest rest',
      below.render.toList ++ rest = below'.render.toList ++ rest' →
      below.trees = below'.trees ∧ rest = rest')
    {rest rest' : List Char} (hrest : Follows rest) (hrest' : Follows rest')
    (h : (renderOne s).toList ++ rest = (renderOne s').toList ++ rest') :
    treeOne s = treeOne s' ∧ rest = rest' := by
  cases s with
  | field name alias? arguments nested =>
    rw [toList_renderOne_field, List.append_assoc, List.append_assoc, List.append_assoc] at h
    cases s' with
    | field name' alias'? arguments' nested' =>
      rw [toList_renderOne_field, List.append_assoc, List.append_assoc, List.append_assoc] at h
      have hspace : ∃ text, (renderBelow nested).toList ++ rest = ' ' :: text :=
        exists_space hrest
      have hspace' : ∃ text, (renderBelow nested').toList ++ rest' = ' ' :: text :=
        exists_space hrest'
      obtain ⟨rfl, rfl, harguments⟩ := label_append_inj hs.wellNamed.1 hs'.wellNamed.1
        hs.aliasNamed hs'.aliasNamed (endsName_arguments arguments hspace)
        (endsName_arguments arguments' hspace') h
      obtain ⟨rfl, hbelow⟩ := renderArguments_append_inj hs.wellNamed.2 hs'.wellNamed.2
        (ne_parenthesis_of_space hspace) (ne_parenthesis_of_space hspace') harguments
      exact (renderBelow_append_inj hinner hrest hrest' hbelow).imp_left
        (congrArg (Tree.field name alias? arguments))
    | fragment condition' nested' =>
      rw [toList_renderOne_fragment] at h
      exact absurd h (field_append_ne_dot hs.wellNamed.1 hs.aliasNamed _ _)
  | fragment condition nested =>
    rw [toList_renderOne_fragment] at h
    cases s' with
    | field name' alias'? arguments' nested' =>
      rw [toList_renderOne_field] at h
      simp only [List.append_assoc] at h
      exact absurd h.symm (field_append_ne_dot hs'.wellNamed.1 hs'.aliasNamed _ _)
    | fragment condition' nested' =>
      rw [toList_renderOne_fragment, List.append_assoc, List.append_assoc, List.append_assoc,
        List.append_assoc] at h
      obtain ⟨rfl, hbelow⟩ := name_append_inj hs.wellNamed hs'.wellNamed
        (endsWord_cons (by decide) _) (endsWord_cons (by decide) _) (List.append_cancel_left h)
      exact (hinner nested rfl nested' rfl _ _ (List.cons.inj hbelow).2).imp_left
        (congrArg (Tree.fragment condition))

/-- The selections of a set, up to its closing brace, are unambiguous if each of them is. -/
theorem renderAll_append_inj {l l' : List Selection} (hl : ∀ s ∈ l, s.Readable)
    (hl' : ∀ s ∈ l', s.Readable)
    (hone : ∀ s ∈ l, ∀ s' ∈ l', ∀ rest rest', Follows rest → Follows rest' →
      (renderOne s).toList ++ rest = (renderOne s').toList ++ rest' →
      treeOne s = treeOne s' ∧ rest = rest') {rest rest' : List Char}
    (h : (renderAll l).toList ++ ' ' :: '\x7d' :: rest
      = (renderAll l').toList ++ ' ' :: '\x7d' :: rest') :
    treesAll l = treesAll l' ∧ rest = rest' := by
  have hend : ∀ {s : Selection} {others : List Selection} {rest rest' : List Char},
      s.Readable →
      (renderAll (s :: others)).toList ++ rest ≠ ' ' :: '\x7d' :: rest' := by
    intro s others rest rest' hs h
    obtain ⟨c, text, hc, -, hclose⟩ := exists_start hs
    rw [toList_renderAll_cons, hc] at h
    exact hclose (List.cons.inj (List.cons.inj h).2).1
  induction l generalizing l' with
  | nil =>
    cases l' with
    | nil => exact ⟨rfl, (List.cons.inj (List.cons.inj h).2).2⟩
    | cons s' l' => exact absurd h.symm (hend (hl' s' List.mem_cons_self))
  | cons s l ih =>
    cases l' with
    | nil => exact absurd h (hend (hl s List.mem_cons_self))
    | cons s' l' =>
      have hltail := (List.forall_mem_cons.1 hl).2
      have hltail' := (List.forall_mem_cons.1 hl').2
      rw [toList_renderAll_cons, toList_renderAll_cons, List.cons_append, List.cons_append,
        List.append_assoc, List.append_assoc] at h
      obtain ⟨htree, htail⟩ := hone s List.mem_cons_self s' List.mem_cons_self _ _
        (follows_renderAll hltail rest) (follows_renderAll hltail' rest') (List.cons.inj h).2
      obtain ⟨htrees, hrests⟩ := ih hltail hltail' (fun s hs s' hs' ↦
        hone s (List.mem_cons_of_mem _ hs) s' (List.mem_cons_of_mem _ hs')) htail
      exact ⟨by rw [treesAll, treesAll, htree, htrees], hrests⟩

/-- **Two sets at the start of one text have equal trees.** -/
theorem render_append_inj {set set' : SelectionSet} (hset : set.Hereditary Readable)
    (hset' : set'.Hereditary Readable) {rest rest' : List Char}
    (h : set.render.toList ++ rest = set'.render.toList ++ rest') :
    set.trees = set'.trees ∧ rest = rest' := by
  induction hset generalizing set' rest rest' with
  | @mk set hreadable _ ih =>
    have hreadable' := hset'.self
    have hone : ∀ s ∈ set.selections, ∀ s' ∈ set'.selections, ∀ rest rest', Follows rest →
        Follows rest' → (renderOne s).toList ++ rest = (renderOne s').toList ++ rest' →
        treeOne s = treeOne s' ∧ rest = rest' := by
      intro s hs s' hs' rest rest' hrest hrest' h
      refine renderOne_append_inj (hreadable s hs) (hreadable' s' hs') ?_ hrest hrest' h
      intro below hbelow below' hbelow' rest rest' h
      exact ih s hs below hbelow (hset'.of_below? hs' hbelow') h
    obtain ⟨selections, aliases⟩ := set
    obtain ⟨selections', aliases'⟩ := set'
    rw [toList_render, toList_render, List.cons_append, List.cons_append, List.append_assoc,
      List.append_assoc] at h
    exact renderAll_append_inj hreadable hreadable' hone (List.cons.inj h).2

/-- **The text of a set that can be built determines its tree**, if there are no floats in it and
names where names belong: the order of selections, their names, aliases and arguments, and whatever
is selected below them. -/
theorem trees_eq_of_render_eq {set set' : SelectionSet} (hset : set.Reachable)
    (hset' : set'.Reachable) (hnames : set.WellNamed) (hnames' : set'.WellNamed)
    (h : set.render = set'.render) : set.trees = set'.trees := by
  have hreadable := Hereditary.readable hnames hset.hereditary_shaped
  have hreadable' := Hereditary.readable hnames' hset'.hereditary_shaped
  have htexts : set.render.toList ++ [] = set'.render.toList ++ [] := by rw [h]
  exact (render_append_inj hreadable hreadable' htexts).1

/-- Arguments with text of a query in them. -/
def searchArguments : List Argument := [
  ⟨"text", .string "\") \x7b id \x7d"⟩,
  ⟨"where", .object [("kind", .enum "POST"), ("ids", .list [.int (-1), .null])]⟩]

/-- Calls that select a field with an empty set below it, another occurrence of that field, and a
fragment. -/
def searchSteps : List Step := [
  .field "search" searchArguments (some .empty),
  .field "search" [⟨"text", .string ""⟩] none,
  .fragment "Post" .withTypename]

theorem allowed_searchSteps : ∀ step ∈ searchSteps, step.Allowed fun _ ↦ True :=
  List.forall_mem_cons.2 ⟨Step.allowed_above trivial _ .empty, List.forall_mem_cons.2
    ⟨Step.allowed_leaf trivial _, List.forall_mem_singleton.2 .withTypename⟩⟩

theorem wellNamed_searchArguments : ∀ a ∈ searchArguments, a.WellNamed := by
  have hids : (Value.list [.int (-1), .null]).WellNamed :=
    .list (List.forall_mem_cons.2 ⟨.int (-1), List.forall_mem_singleton.2 .null⟩)
  have hwhere : (Value.object
      [("kind", .enum "POST"), ("ids", .list [.int (-1), .null])]).WellNamed :=
    .object (by decide) (List.forall_mem_cons.2
      ⟨.enum (by decide) (by decide), List.forall_mem_singleton.2 hids⟩)
  exact List.forall_mem_cons.2 ⟨⟨by decide, .string _⟩,
    List.forall_mem_singleton.2 ⟨by decide, hwhere⟩⟩

theorem wellNamed_of_searchSteps {set : SelectionSet}
    (h : set.selections = (empty.run searchSteps).selections) : set.WellNamed := by
  have hempty : SelectionSet.empty.WellNamed :=
    .mk (fun _ h ↦ absurd h List.not_mem_nil) fun _ h ↦ absurd h List.not_mem_nil
  have htypename : SelectionSet.withTypename.WellNamed :=
    .mk (List.forall_mem_singleton.2 ⟨by decide, fun _ h ↦ absurd h List.not_mem_nil⟩)
      (List.forall_mem_singleton.2 fun _ h ↦ nomatch h)
  have hselections : set.selections = [.field "search" none searchArguments (some .empty),
      .field "search" (some "__alias_1") [⟨"text", .string ""⟩] none,
      .fragment "Post" .withTypename] := h
  refine .mk ?_ ?_
  · rw [hselections]
    exact List.forall_mem_cons.2 ⟨⟨by decide, wellNamed_searchArguments⟩, List.forall_mem_cons.2
      ⟨⟨by decide, List.forall_mem_singleton.2 ⟨by decide, .string _⟩⟩,
        List.forall_mem_singleton.2 (by decide : isName "Post" = true)⟩⟩
  · rw [hselections]
    intro s hs below hbelow
    simp only [List.mem_cons, List.not_mem_nil, or_false] at hs
    rcases hs with rfl | rfl | rfl
    · exact Option.some.inj hbelow ▸ hempty
    · cases hbelow
    · exact Option.some.inj hbelow ▸ htypename

/-- Merging a set into the empty one gives the same text, and the tree can be told from it. -/
theorem trees_eq_of_render_eq_search :
    (empty.run searchSteps).Reachable ∧ (empty.merge (empty.run searchSteps)).Reachable
      ∧ (empty.run searchSteps).WellNamed ∧ (empty.merge (empty.run searchSteps)).WellNamed
      ∧ (empty.run searchSteps).render = "\x7b search(text: \"\\\") \x7b id \x7d\", "
        ++ "where: \x7bkind: POST, ids: [-1, null]\x7d) \x7b \x7d "
        ++ "__alias_1: search(text: \"\") ... on Post \x7b __typename \x7d \x7d"
      ∧ (empty.run searchSteps).render = (empty.merge (empty.run searchSteps)).render
      ∧ (empty.run searchSteps).trees = (empty.merge (empty.run searchSteps)).trees := by
  have hset : (empty.run searchSteps).Reachable := Built.run .empty allowed_searchSteps
  have hmerged : (empty.merge (empty.run searchSteps)).Reachable := .merge .empty hset
  have hnames := wellNamed_of_searchSteps rfl
  have hnames' : (empty.merge (empty.run searchSteps)).WellNamed := wellNamed_of_searchSteps rfl
  have hrender : (empty.run searchSteps).render = (empty.merge (empty.run searchSteps)).render := by
    decide +kernel
  exact ⟨hset, hmerged, hnames, hnames', by decide +kernel, hrender,
    trees_eq_of_render_eq hset hmerged hnames hnames' hrender⟩

end SelectionSet

end Query
end QueryBuilder
