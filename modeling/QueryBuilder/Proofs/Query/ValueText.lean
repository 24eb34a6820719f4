import Mathlib
import QueryBuilder.Proofs.Name.Grammar
import QueryBuilder.Proofs.Query.StringLiteral

/-!
# Texts of values are unambiguous

A text starts with at most one value.  The first character tells what kind of value it is; a word
or a number then extends as far as its characters go, a string up to its closing quote, and a list
or an object up to its closing bracket.

## What is here

* `EndsWord` — a text that does not go on with the word or number before it.
* `separated_append_inj` — a list between separators and a closing bracket is unambiguous if its
  items are.
* `Value.WellNamed` — no floats, and names where names belong.  Floats are left out since they may
  read like integers.
* `Value.WellNamed.render_append_inj`, `renderArguments_append_inj` — two values, or two argument
  lists, that stand at the start of the same text are equal, and so are the rests.
-/

set_option autoImplicit false

namespace QueryBuilder
namespace Query

open Name

/-! ## Words -/

/-- Whether a character may belong to a name or a number. -/
def isWordChar (c : Char) : Bool :=
  isNameChar c || c == '-'

/-- The text does not go on with a name or a number that stands before it. -/
def EndsWord (text : List Char) : Prop :=
  ∀ c ∈ text.head?, isWordChar c = false

theorem endsWord_cons {c : Char} (h : isWordChar c = false) (rest : List Char) :
    EndsWord (c :: rest) :=
  fun _ hc ↦ Option.some.inj hc ▸ h

theorem takeWhile_word {word rest : List Char} (hword : ∀ c ∈ word, isWordChar c = true)
    (hrest : EndsWord rest) : (word ++ rest).takeWhile isWordChar = word := by
  rw [List.takeWhile_append_of_pos hword]
  cases rest with
  | nil => exact List.append_nil word
  | cons c rest => rw [List.takeWhile_cons_of_neg (by simp [hrest c rfl]), List.append_nil]

/-- A text starts with at most one word. -/
theorem word_append_inj {word word' rest rest' : List Char}
    (hword : ∀ c ∈ word, isWordChar c = true) (hword' : ∀ c ∈ word', isWordChar c = true)
    (hrest : EndsWord rest) (hrest' : EndsWord rest') (h : word ++ rest = word' ++ rest') :
    word = word' ∧ rest = rest' := by
  have heq : word = word' := by
    rw [← takeWhile_word hword hrest, h, takeWhile_word hword' hrest']
  exact ⟨heq, List.append_cancel_left (heq ▸ h)⟩

theorem isWordChar_of_isName {name : String} (h : isName name = true) :
    ∀ c ∈ name.toList, isWordChar c = true := by
  intro c hc
  rw [isWordChar, isNameChar_of_isName h hc, Bool.true_or]

theorem name_append_inj {name name' : String} (hname : isName name = true)
    (hname' : isName name' = true) {rest rest' : List Char} (hrest : EndsWord rest)
    (hrest' : EndsWord rest') (h : name.toList ++ rest = name'.toList ++ rest') :
    name = name' ∧ rest = rest' := by
  have := word_append_inj (isWordChar_of_isName hname) (isWordChar_of_isName hname') hrest hrest' h
  exact this.imp_left String.toList_inj.1

/-! ## Lists -/

/-- What stands between the items of a list. -/
def separator : List Char := [',', ' ']

theorem separator_intercalate_cons (x : List Char) (l : List (List Char)) :
    separator.intercalate (x :: l) = x ++ l.flatMap (separator ++ ·) := by
  induction l generalizing x with
  | nil => simp [List.intercalate]
  | cons y l ih => simp [List.intercalate_cons_cons, ih]

section

variable {α : Type} {f : α → List Char} {close : Char}

theorem endsWord_items (hclose : isWordChar close = false) (l : List α) (rest : List Char) :
    EndsWord (l.flatMap (separator ++ f ·) ++ close :: rest) := by
  cases l with
  | nil => exact endsWord_cons hclose rest
  | cons a l => exact endsWord_cons (by decide) _

/-- The items behind the first one. -/
theorem items_append_inj (hclose : isWordChar close = false) (hcomma : close ≠ ',')
    {l l' : List α} (hf : ∀ a ∈ l, ∀ b ∈ l', ∀ rest rest', EndsWord rest → EndsWord rest' →
      f a ++ rest = f b ++ rest' → a = b ∧ rest = rest') {rest rest' : List Char}
    (h : l.flatMap (separator ++ f ·) ++ close :: rest
      = l'.flatMap (separator ++ f ·) ++ close :: rest') : l = l' ∧ rest = rest' := by
  induction l generalizing l' with
  | nil =>
    cases l' with
    | nil => exact ⟨rfl, (List.cons.inj h).2⟩
    | cons b l' => exact absurd (List.cons.inj h).1 hcomma
  | cons a l ih =>
    cases l' with
    | nil => exact absurd (List.cons.inj h).1.symm hcomma
    | cons b l' =>
      rw [List.flatMap_cons, List.flatMap_cons, List.append_assoc, List.append_assoc,
        List.append_assoc, List.append_assoc] at h
      obtain ⟨rfl, htail⟩ := hf a List.mem_cons_self b List.mem_cons_self _ _
        (endsWord_items hclose l rest) (endsWord_items hclose l' rest')
        (List.append_cancel_left h)
      have hrest := ih (fun a ha b hb ↦
        hf a (List.mem_cons_of_mem _ ha) b (List.mem_cons_of_mem _ hb)) htail
      exact hrest.imp_left (congrArg _)

/-- **A list up to its closing bracket is unambiguous if its items are.** -/
theorem separated_append_inj (hclose : isWordChar close = false) (hcomma : close ≠ ',')
    {l l' : List α} (hstart : ∀ a rest rest', a ∈ l ∨ a ∈ l' → f a ++ rest ≠ close :: rest')
    (hf : ∀ a ∈ l, ∀ b ∈ l', ∀ rest rest', EndsWord rest → EndsWord rest' →
      f a ++ rest = f b ++ rest' → a = b ∧ rest = rest') {rest rest' : List Char}
    (h : separator.intercalate (l.map f) ++ close :: rest
      = separator.intercalate (l'.map f) ++ close :: rest') : l = l' ∧ rest = rest' := by
  cases l with
  | nil =>
    cases l' with
    | nil => exact ⟨rfl, (List.cons.inj h).2⟩
    | cons b l' =>
      rw [List.map_cons, separator_intercalate_cons, List.append_assoc] at h
      exact absurd h.symm (hstart b _ _ (.inr List.mem_cons_self))
  | cons a l =>
    rw [List.map_cons, separator_intercalate_cons, List.append_assoc, List.flatMap_map] at h
    cases l' with
    | nil => exact absurd h (hstart a _ _ (.inl List.mem_cons_self))
    | cons b l' =>
      rw [List.map_cons, separator_intercalate_cons, List.append_assoc, List.flatMap_map] at h
      obtain ⟨rfl, htail⟩ := hf a List.mem_cons_self b List.mem_cons_self _ _
        (endsWord_items hclose l rest) (endsWord_items hclose l' rest') h
      have hrest := items_append_inj hclose hcomma (fun a ha b hb ↦
        hf a (List.mem_cons_of_mem _ ha) b (List.mem_cons_of_mem _ hb)) htail
      exact hrest.imp_left (congrArg _)

end

/-! ## Kinds of values -/

/-- What a value starts with. -/
inductive Lead where
  | word
  | number
  | quote
  | bracket
  | brace
  deriving DecidableEq

/-- What a character starts. -/
def leadOf? (c : Char) : Option Lead :=
  if isNameStart c then some .word
  else if c.isDigit || c == '-' then some .number
  else if c = '"' then some .quote
  else if c = '[' then some .bracket
  else if c = '\x7b' then some .brace
  else none

/-- What a text starts with. -/
def startOf? (text : List Char) : Option Lead :=
  text.head?.bind leadOf?

theorem startOf?_append {text : List Char} {lead : Lead} (h : startOf? text = some lead)
    (rest : List Char) : startOf? (text ++ rest) = some lead := by
  cases text with
  | nil => cases h
  | cons c text => exact h

theorem exists_cons_of_startOf? {text : List Char} {lead : Lead} (h : startOf? text = some lead) :
    ∃ c rest, text = c :: rest ∧ leadOf? c = some lead := by
  cases text with
  | nil => cases h
  | cons c rest => exact ⟨c, rest, rfl, h⟩

theorem ne_cons_of_startOf? {text : List Char} {lead : Lead} (h : startOf? text = some lead)
    {c : Char} (hc : leadOf? c ≠ some lead) (rest : List Char) : text ≠ c :: rest := by
  rintro rfl
  exact hc h

theorem leadOf?_of_isDigit {c : Char} (h : c.isDigit = true) : leadOf? c = some .number := by
  have hascii : Text.isAscii c = true :=
    isAscii_of_isNameChar (by simp [isNameChar, Char.isAlphanum, h])
  exact of_isAscii (p := fun c ↦ c.isDigit = true → leadOf? c = some .number) (by decide) hascii h

theorem startOf?_of_isName {name : String} (h : isName name = true) :
    startOf? name.toList = some .word := by
  obtain ⟨c, rest, hname, hc, -⟩ := isName_iff.1 h
  rw [hname]
  exact if_pos hc

theorem startOf?_toDigits (n : Nat) : startOf? (Nat.toDigits 10 n) = some .number := by
  cases h : Nat.toDigits 10 n with
  | nil => exact absurd h Nat.toDigits_ne_nil
  | cons c rest =>
    have hc : c ∈ Nat.toDigits 10 n := h ▸ List.mem_cons_self
    exact leadOf?_of_isDigit (Nat.isDigit_of_mem_toDigits (by decide) (by decide) hc)

namespace Value

/-- What the text of a value starts with. -/
def lead : Value → Lead
  | .null | .bool _ | .enum _ => .word
  | .int _ | .float _ => .number
  | .string _ => .quote
  | .list _ => .bracket
  | .object _ => .brace

/-- The value that a word stands for. -/
def ofWord (word : String) : Value :=
  if word = "null" then .null
  else if word = "true" then .bool true
  else if word = "false" then .bool false
  else .enum word

/-- The value has no floats in it, its enum values are names other than the three words with a
meaning of their own, and the fields of its objects have names. -/
inductive WellNamed : Value → Prop
  | null : WellNamed .null
  | int (n : Int) : WellNamed (.int n)
  | string (s : String) : WellNamed (.string s)
  | bool (b : Bool) : WellNamed (.bool b)
  | enum {name : String} (hname : isName name = true) (hword : name ∉ ["null", "true", "false"]) :
      WellNamed (.enum name)
  | list {items : List Value} (hitems : ∀ item ∈ items, WellNamed item) : WellNamed (.list items)
  | object {fields : List (String × Value)} (hnames : ∀ f ∈ fields, isName f.1 = true)
      (hvalues : ∀ f ∈ fields, WellNamed f.2) : WellNamed (.object fields)

theorem renderItems_eq_map (items : List Value) : renderItems items = items.map render := by
  induction items with
  | nil => rfl
  | cons item rest ih => rw [renderItems, ih, List.map_cons]

/-- The text of a value under a name. -/
def renderNamed (name : String) (value : Value) : String :=
  name ++ ": " ++ value.render

theorem renderFields_eq_map (fields : List (String × Value)) :
    renderFields fields = fields.map fun f ↦ renderNamed f.1 f.2 := by
  induction fields with
  | nil => rfl
  | cons f rest ih => rw [renderFields, ih, List.map_cons, renderNamed]

/-! ## Texts of values as lists of characters -/

theorem toList_render_list (items : List Value) : (Value.list items).render.toList
    = '[' :: (separator.intercalate (items.map (·.render.toList)) ++ [']']) := by
  rw [render, renderItems_eq_map, String.toList_append, String.toList_append,
    String.toList_intercalate, List.map_map]
  rfl

theorem toList_render_object (fields : List (String × Value)) : (Value.object fields).render.toList
    = '\x7b' :: (separator.intercalate (fields.map fun f ↦ (renderNamed f.1 f.2).toList)
        ++ ['\x7d']) := by
  rw [render, renderFields_eq_map, String.toList_append, String.toList_append,
    String.toList_intercalate, List.map_map]
  rfl

theorem toList_render_string (s : String) :
    (Value.string s).render.toList = encodeString s.toList := by
  rw [render, stringLiteral, String.toList_ofList]

theorem toList_renderNamed (name : String) (value : Value) :
    (renderNamed name value).toList = name.toList ++ ':' :: ' ' :: value.render.toList := by
  rw [renderNamed, String.toList_append, String.toList_append, List.append_assoc]
  rfl

/-- A number is digits, behind a sign if it is negative. -/
theorem toList_render_int (n : Int) : ∃ m, (Value.int n).render.toList = Nat.toDigits 10 m
    ∨ (Value.int n).render.toList = '-' :: Nat.toDigits 10 m := by
  have hrender : (Value.int n).render = n.repr := by
    rw [render]
    rfl
  rw [hrender, Int.repr_eq_if]
  split_ifs
  · exact ⟨n.toNat, .inl Nat.toList_repr⟩
  · refine ⟨(-n).toNat, .inr ?_⟩
    rw [String.toList_append, Nat.toList_repr]
    rfl

namespace WellNamed

variable {v w : Value}

/-! ## The start of a value -/

/-- The first character of a value tells what it starts with. -/
theorem startOf?_render (hv : v.WellNamed) : startOf? v.render.toList = some v.lead := by
  cases hv with
  | null => exact startOf?_of_isName (show isName "null" = true by decide)
  | bool b =>
    cases b with
    | true => exact startOf?_of_isName (show isName "true" = true by decide)
    | false => exact startOf?_of_isName (show isName "false" = true by decide)
  | enum hname _ => exact startOf?_of_isName hname
  | int n =>
    obtain ⟨m, h | h⟩ := toList_render_int n
    · rw [h]
      exact startOf?_toDigits m
    · rw [h]
      rfl
  | string s =>
    rw [toList_render_string]
    rfl
  | list items =>
    rw [toList_render_list]
    rfl
  | object _ _ =>
    rw [toList_render_object]
    rfl

/-- Values at the start of one text are of one kind. -/
theorem lead_eq (hv : v.WellNamed) (hw : w.WellNamed) {rest rest' : List Char}
    (h : v.render.toList ++ rest = w.render.toList ++ rest') : v.lead = w.lead := by
  have hstart := startOf?_append hv.startOf?_render rest
  rw [h, startOf?_append hw.startOf?_render rest'] at hstart
  exact (Option.some.inj hstart).symm

/-! ## Words and numbers -/

theorem isWordChar_render (hv : v.WellNamed) (h : v.lead = .word ∨ v.lead = .number) :
    ∀ c ∈ v.render.toList, isWordChar c = true := by
  have hdigit : ∀ m, ∀ c ∈ Nat.toDigits 10 m, isWordChar c = true := by
    intro m c hc
    have : c.isDigit = true := Nat.isDigit_of_mem_toDigits (by decide) (by decide) hc
    simp [isWordChar, isNameChar, Char.isAlphanum, this]
  cases hv with
  | null => exact isWordChar_of_isName (show isName "null" = true by decide)
  | bool b =>
    cases b with
    | true => exact isWordChar_of_isName (show isName "true" = true by decide)
    | false => exact isWordChar_of_isName (show isName "false" = true by decide)
  | enum hname _ => exact isWordChar_of_isName hname
  | int n =>
    obtain ⟨m, hm | hm⟩ := toList_render_int n
    · exact hm ▸ hdigit m
    · exact hm ▸ List.forall_mem_cons.2 ⟨by decide, hdigit m⟩
  | string _ | list _ | object _ _ => simp [lead] at h

theorem ofWord_render (hv : v.WellNamed) (h : v.lead = .word) : ofWord v.render = v := by
  cases hv with
  | null => rfl
  | bool b => cases b <;> rfl
  | enum hname hword =>
    simp only [List.mem_cons, List.not_mem_nil, or_false, not_or] at hword
    rw [render, ofWord, if_neg hword.1, if_neg hword.2.1, if_neg hword.2.2]
  | int _ | string _ | list _ | object _ _ => cases h

/-- Words and numbers are unambiguous. -/
theorem atom_append_inj (hv : v.WellNamed) (hw : w.WellNamed)
    (hlead : v.lead = .word ∨ v.lead = .number) {rest rest' : List Char} (hrest : EndsWord rest)
    (hrest' : EndsWord rest') (h : v.render.toList ++ rest = w.render.toList ++ rest') :
    v = w ∧ rest = rest' := by
  have hsame : v.lead = w.lead := hv.lead_eq hw h
  obtain ⟨htext, hrests⟩ := word_append_inj (hv.isWordChar_render hlead)
    (hw.isWordChar_render (hsame ▸ hlead)) hrest hrest' h
  have hrender : v.render = w.render := String.toList_inj.1 htext
  refine ⟨?_, hrests⟩
  rcases hlead with hlead | hlead
  · rw [← hv.ofWord_render hlead, hrender, hw.ofWord_render (hsame ▸ hlead)]
  · rw [hlead] at hsame
    cases hv with
    | int n =>
      cases hw with
      | int m =>
        rw [render, render] at hrender
        exact congrArg Value.int (Int.repr_injective hrender)
      | _ => cases hsame
    | _ => cases hlead

/-! ## Values -/

/-- A value does not start like a closing bracket. -/
theorem append_ne (hv : v.WellNamed) {close : Char} (hclose : leadOf? close = none)
    (rest rest' : List Char) : v.render.toList ++ rest ≠ close :: rest' :=
  ne_cons_of_startOf? (startOf?_append hv.startOf?_render rest) (by simp [hclose]) rest'

/-- A value under a name is unambiguous if the value is. -/
theorem named_append_inj {name name' : String} (hname : isName name = true)
    (hname' : isName name' = true) {rest rest' : List Char}
    (hvalue : v.render.toList ++ rest = w.render.toList ++ rest' → v = w ∧ rest = rest')
    (h : (renderNamed name v).toList ++ rest = (renderNamed name' w).toList ++ rest') :
    name = name' ∧ v = w ∧ rest = rest' := by
  rw [toList_renderNamed, toList_renderNamed, List.append_assoc, List.append_assoc] at h
  obtain ⟨hnames, htail⟩ := name_append_inj hname hname' (endsWord_cons (by decide) _)
    (endsWord_cons (by decide) _) h
  exact ⟨hnames, hvalue (List.cons.inj (List.cons.inj htail).2).2⟩

/-- A name does not start like a closing bracket. -/
theorem named_append_ne {name : String} (hname : isName name = true) {close : Char}
    (hclose : leadOf? close = none) (value : Value) (rest rest' : List Char) :
    (renderNamed name value).toList ++ rest ≠ close :: rest' := by
  rw [toList_renderNamed, List.append_assoc]
  exact ne_cons_of_startOf? (startOf?_append (startOf?_of_isName hname) _) (by simp [hclose]) rest'

/-- **Two values at the start of one text are equal.** -/
theorem render_append_inj (hv : v.WellNamed) (hw : w.WellNamed) {rest rest' : List Char}
    (hrest : EndsWord rest) (hrest' : EndsWord rest')
    (h : v.render.toList ++ rest = w.render.toList ++ rest') : v = w ∧ rest = rest' := by
  induction hv generalizing w rest rest' with
  | null => exact WellNamed.null.atom_append_inj hw (.inl rfl) hrest hrest' h
  | int n => exact (WellNamed.int n).atom_append_inj hw (.inr rfl) hrest hrest' h
  | bool b => exact (WellNamed.bool b).atom_append_inj hw (.inl rfl) hrest hrest' h
  | enum hname hword =>
    exact (WellNamed.enum hname hword).atom_append_inj hw (.inl rfl) hrest hrest' h
  | string s =>
    have hlead := (WellNamed.string s).lead_eq hw h
    cases hw with
    | string s' =>
      rw [toList_render_string, toList_render_string] at h
      exact (encodeString_append_inj h).imp_left fun hs ↦ congrArg _ (String.toList_inj.1 hs)
    | _ => cases hlead
  | @list items hitems ih =>
    have hlead := (WellNamed.list hitems).lead_eq hw h
    cases hw with
    | @list items' hitems' =>
      rw [toList_render_list, toList_render_list, List.cons_append, List.cons_append,
        List.append_assoc, List.append_assoc] at h
      refine (separated_append_inj (by decide) (by decide) ?_ ?_ (List.cons.inj h).2).imp_left
        (congrArg _)
      · rintro item rest rest' (hitem | hitem)
        · exact (hitems item hitem).append_ne (by decide) rest rest'
        · exact (hitems' item hitem).append_ne (by decide) rest rest'
      · intro item hitem item' hitem' rest rest' hrest hrest' h
        exact ih item hitem (hitems' item' hitem') hrest hrest' h
    | _ => cases hlead
  | @object fields hnames hvalues ih =>
    have hlead := (WellNamed.object hnames hvalues).lead_eq hw h
    cases hw with
    | @object fields' hnames' hvalues' =>
      rw [toList_render_object, toList_render_object, List.cons_append, List.cons_append,
        List.append_assoc, List.append_assoc] at h
      refine (separated_append_inj (by decide) (by decide) ?_ ?_ (List.cons.inj h).2).imp_left
        (congrArg _)
      · rintro f rest rest' (hf | hf)
        · exact named_append_ne (hnames f hf) (by decide) f.2 rest rest'
        · exact named_append_ne (hnames' f hf) (by decide) f.2 rest rest'
      · intro f hf f' hf' rest rest' hrest hrest' h
        obtain ⟨hname, hvalue, hrests⟩ := named_append_inj (hnames f hf) (hnames' f' hf')
          (ih f hf (hvalues' f' hf') hrest hrest') h
        exact ⟨Prod.ext hname hvalue, hrests⟩
    | _ => cases hlead

end WellNamed

end Value

/-! ## Arguments -/

/-- The argument and whatever is in its value have names where names belong. -/
def Argument.WellNamed (a : Argument) : Prop :=
  isName a.name = true ∧ a.value.WellNamed

theorem toList_renderArguments {arguments : List Argument} (h : arguments ≠ []) :
    (renderArguments arguments).toList
      = '(' :: (separator.intercalate
          (arguments.map fun a ↦ (Value.renderNamed a.name a.value).toList) ++ [')']) := by
  cases arguments with
  | nil => exact absurd rfl h
  | cons a rest =>
    rw [renderArguments, String.toList_append, String.toList_append, String.toList_intercalate,
      List.map_map]
    rfl

/-- **Two argument lists at the start of one text are equal**, unless the text goes on with an
opening parenthesis where one of them is empty. -/
theorem renderArguments_append_inj {as bs : List Argument} (has : ∀ a ∈ as, a.WellNamed)
    (hbs : ∀ b ∈ bs, b.WellNamed) {rest rest' : List Char} (hrest : ∀ text, rest ≠ '(' :: text)
    (hrest' : ∀ text, rest' ≠ '(' :: text)
    (h : (renderArguments as).toList ++ rest = (renderArguments bs).toList ++ rest') :
    as = bs ∧ rest = rest' := by
  rcases eq_or_ne as [] with rfl | hne
  · rcases eq_or_ne bs [] with rfl | hne'
    · exact ⟨rfl, h⟩
    · rw [toList_renderArguments hne'] at h
      exact absurd h (hrest _)
  · rcases eq_or_ne bs [] with rfl | hne'
    · rw [toList_renderArguments hne] at h
      exact absurd h.symm (hrest' _)
    · rw [toList_renderArguments hne, toList_renderArguments hne', List.cons_append,
        List.cons_append, List.append_assoc, List.append_assoc] at h
      refine separated_append_inj (by decide) (by decide) ?_ ?_ (List.cons.inj h).2
      · rintro a rest rest' (ha | ha)
        · exact Value.WellNamed.named_append_ne (has a ha).1 (by decide) a.value rest rest'
        · exact Value.WellNamed.named_append_ne (hbs a ha).1 (by decide) a.value rest rest'
      · intro a ha b hb rest rest' hrest hrest' h
        obtain ⟨hname, hvalue, hrests⟩ := Value.WellNamed.named_append_inj (has a ha).1
          (hbs b hb).1 ((has a ha).2.render_append_inj (hbs b hb).2 hrest hrest') h
        refine ⟨?_, hrests⟩
        cases a
        cases b
        cases hname
        cases hvalue
        rfl

end Query
end QueryBuilder
