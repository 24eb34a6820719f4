import QueryBuilder.Code.Names
import QueryBuilder.Code.TypeExpr
import QueryBuilder.Proofs.Schema.Sound

/-!
# The wrapping of types

The generated type of a reference shows at every level whether the schema allows null there, and
whether there is a list.  Both can be read off its text.

## What is here

* `TypeRef.item?`, `TypeRef.at?` — what a list contains, and what is so many lists deep in a
  reference.  A reference is determined by its outermost level (`TypeRef.ext_item`), and facts about
  references follow from facts about their items (`TypeRef.item_induction`).
* `Wrapper`, `unwrap?`, `textAt?` — the same for the text of a type: what stands in a wrapper, and
  what is so many vectors deep.
* `TypeExpr.ofRef_eq`, `TypeExpr.ofRefIn_eq` — the type of a reference, one level at a time.
* `Names.itemText?_typeText` — what the text of a list's type has in its vector is the text of the
  item's type.
* `Names.typeText_exact` — the text of a type is wrapped as its reference is, at every level, and no
  two references have the same text.
-/

set_option autoImplicit false

namespace QueryBuilder
namespace Schema

/-! ## The levels of a reference -/

namespace TypeRef

/-- What a list contains. -/
def item? : TypeRef → Option TypeRef
  | .named _ => none
  | .list inner => some inner
  | .nonNull inner => inner.item?

/-- What is so many lists deep. -/
def at? : Nat → TypeRef → Option TypeRef
  | 0, ref => some ref
  | depth + 1, ref => ref.item?.bind (at? depth)

variable {t u i : TypeRef}

theorem namedType_item (h : t.item? = some i) : i.namedType = t.namedType := by
  induction t with
  | named id => cases h
  | list inner _ => rw [Option.some.inj h, namedType]
  | nonNull inner ih => rw [namedType, ih h]

theorem namedType_at? {depth : Nat} (h : t.at? depth = some i) : i.namedType = t.namedType := by
  induction depth generalizing t with
  | zero => rw [Option.some.inj h]
  | succ depth ih =>
    rw [at?, Option.bind_eq_some_iff] at h
    obtain ⟨item, hitem, hi⟩ := h
    rw [ih hi, namedType_item hitem]

theorem containsList_eq (ref : TypeRef) : ref.containsList = ref.item?.isSome := by
  induction ref with
  | named id => rfl
  | list inner _ => rfl
  | nonNull inner ih => exact ih

theorem IsProper.item (ht : t.IsProper) (h : t.item? = some i) : i.IsProper := by
  induction t with
  | named id => cases h
  | list inner _ => exact Option.some.inj h ▸ ht
  | nonNull inner ih => exact ih ht.2 h

/-- A proper reference that may be null is a named type or a list. -/
theorem eq_of_item? (ht : t.isNonNull = false) :
    (∃ i, t.item? = some i ∧ t = .list i) ∨ (t.item? = none ∧ t = .named t.namedType) := by
  cases t with
  | named id => exact .inr ⟨rfl, rfl⟩
  | list inner => exact .inl ⟨inner, rfl, rfl⟩
  | nonNull inner => cases ht

/-- **A proper reference is determined by its outermost level**, what is in it and its type. -/
theorem ext_item (ht : t.IsProper) (hu : u.IsProper) (hnull : t.isNonNull = u.isNonNull)
    (hitem : t.item? = u.item?) (hnamed : t.namedType = u.namedType) : t = u := by
  have hnullable : ∀ {t u : TypeRef}, t.isNonNull = false → u.isNonNull = false →
      t.item? = u.item? → t.namedType = u.namedType → t = u := by
    intro t u ht hu hitem hnamed
    rcases eq_of_item? ht with ⟨i, hi, rfl⟩ | ⟨hi, heq⟩ <;>
      rcases eq_of_item? hu with ⟨j, hj, rfl⟩ | ⟨hj, heq'⟩
    · rw [hi, hj] at hitem
      rw [Option.some.inj hitem]
    · simp [hi, hj] at hitem
    · simp [hi, hj] at hitem
    · rw [heq, heq', hnamed]
  cases t with
  | nonNull t =>
    cases u with
    | nonNull u => rw [hnullable ht.1 hu.1 hitem hnamed]
    | named | list => cases hnull
  | named | list => exact hnullable rfl hnull.symm hitem hnamed

/-- What holds of a reference if it holds of its item holds of all references. -/
theorem item_induction {P : TypeRef → Prop} (h : ∀ t, (∀ i, t.item? = some i → P i) → P t)
    (t : TypeRef) : P t := by
  -- A non-null marker has the item of what it stands around, so that is carried along.
  suffices hboth : P t ∧ ∀ i, t.item? = some i → P i from hboth.1
  induction t with
  | named id =>
    have hitem : ∀ i, (named id).item? = some i → P i := by
      intro i hi
      cases hi
    exact ⟨h _ hitem, hitem⟩
  | list inner ih =>
    have hitem : ∀ i, (list inner).item? = some i → P i := by
      intro i hi
      exact Option.some.inj hi ▸ ih.1
    exact ⟨h _ hitem, hitem⟩
  | nonNull inner ih => exact ⟨h _ ih.2, ih.2⟩

end TypeRef
end Schema

namespace Code

open Schema

/-! ## The levels of a text -/

/-- What may stand around a type. -/
inductive Wrapper where
  | option
  | vec
  | box
  deriving DecidableEq

/-- The text in front of a wrapped type. -/
def Wrapper.opening : Wrapper → String
  | .option => "Option<"
  | .vec => "Vec<"
  | .box => "Box<"

/-- A text in a wrapper. -/
def wrap (w : Wrapper) (text : String) : String :=
  w.opening ++ text ++ ">"

/-- What stands in a wrapper, if the text has it around it. -/
def unwrap? (w : Wrapper) (text : String) : Option String :=
  (w.opening.toList.isPrefixOf? text.toList).bind fun rest ↦
    if rest.getLast? = some '>' then some (String.ofList rest.dropLast) else none

/-- The text of a type without the wrapper of what may be absent. -/
def bareText (text : String) : String :=
  (unwrap? .option text).getD text

/-- What a vector contains, which may be absent itself. -/
def itemText? (text : String) : Option String :=
  unwrap? .vec (bareText text)

/-- What is so many vectors deep. -/
def textAt? : Nat → String → Option String
  | 0, text => some text
  | depth + 1, text => (itemText? text).bind (textAt? depth)

@[simp]
theorem unwrap?_wrap (w : Wrapper) (text : String) : unwrap? w (wrap w text) = some text := by
  have hprefix : w.opening.toList.isPrefixOf? (wrap w text).toList = some (text.toList ++ ['>']) :=
    List.isPrefixOf?_eq_some_iff_append_eq.2 (by simp [wrap])
  simp [unwrap?, hprefix]

/-- An identifier has no wrapper. -/
theorem unwrap?_of_not_mem {text : String} (h : '<' ∉ text.toList) (w : Wrapper) :
    unwrap? w text = none := by
  have hopening : '<' ∈ w.opening.toList := by
    cases w <;> decide
  have hprefix : w.opening.toList.isPrefixOf? text.toList = none := by
    refine Option.eq_none_iff_forall_ne_some.2 fun rest heq ↦ h ?_
    rw [← List.isPrefixOf?_eq_some_iff_append_eq.1 heq]
    exact List.mem_append_left _ hopening
  rw [unwrap?, hprefix, Option.bind_none]

/-- A vector is not what may be absent. -/
@[simp]
theorem unwrap?_option_wrap_vec (text : String) : unwrap? .option (wrap .vec text) = none := by
  simp [unwrap?, wrap, Wrapper.opening, List.isPrefixOf?]

/-! ## The type of a reference -/

namespace TypeExpr

variable (identOf : TypeId → String) (box : Bool) (ref : TypeRef)

/-- What may be null is optional, and nothing else is. -/
theorem ofRef_eq :
    ofRef identOf box ref = nullableIf (!ref.isNonNull) (ofRefIn identOf false box ref) := by
  cases ref <;> rfl

/-- A list becomes a vector, and a named type its identifier. -/
theorem ofRefIn_eq : ofRefIn identOf false box ref = match ref.item? with
    | some item => .vec (ofRef identOf false item)
    | none => if box then .boxed (.named (identOf ref.namedType))
        else .named (identOf ref.namedType) := by
  induction ref with
  | named id => rfl
  | list inner _ => rfl
  | nonNull inner ih => exact ih

end TypeExpr

namespace Names

variable (names : Names)

/-- The text of the type of a reference. -/
def typeText (ref : TypeRef) : String :=
  (TypeExpr.ofRef names.ident false ref).print

/-- The text of the type of a reference that is not null. -/
def requiredText (ref : TypeRef) : String :=
  (TypeExpr.ofRefIn names.ident false false ref).print

variable {names} {ref item : TypeRef}

theorem typeText_of_isNonNull (h : ref.isNonNull = true) :
    names.typeText ref = names.requiredText ref := by
  rw [typeText, TypeExpr.ofRef_eq, h]
  rfl

theorem typeText_of_nullable (h : ref.isNonNull = false) :
    names.typeText ref = wrap .option (names.requiredText ref) := by
  rw [typeText, TypeExpr.ofRef_eq, h]
  rfl

theorem requiredText_of_item (h : ref.item? = some item) :
    names.requiredText ref = wrap .vec (names.typeText item) := by
  rw [requiredText, TypeExpr.ofRefIn_eq, h]
  rfl

theorem requiredText_of_no_item (h : ref.item? = none) :
    names.requiredText ref = names.ident ref.namedType := by
  rw [requiredText, TypeExpr.ofRefIn_eq, h]
  rfl

section

variable (hplain : '<' ∉ (names.ident ref.namedType).toList)
include hplain

/-- What is not null has no wrapper of what may be absent. -/
theorem unwrap?_requiredText : unwrap? .option (names.requiredText ref) = none := by
  cases hitem : ref.item? with
  | none =>
    rw [requiredText_of_no_item hitem]
    exact unwrap?_of_not_mem hplain _
  | some item => rw [requiredText_of_item hitem, unwrap?_option_wrap_vec]

theorem unwrap?_typeText : unwrap? .option (names.typeText ref)
    = if ref.isNonNull then none else some (names.requiredText ref) := by
  cases hnull : ref.isNonNull with
  | true => simp [typeText_of_isNonNull hnull, unwrap?_requiredText hplain]
  | false => simp [typeText_of_nullable hnull]

@[simp]
theorem bareText_typeText : bareText (names.typeText ref) = names.requiredText ref := by
  rw [bareText, unwrap?_typeText hplain]
  cases hnull : ref.isNonNull with
  | true => simp [typeText_of_isNonNull hnull]
  | false => simp

/-- **What a vector contains is the type of what the list contains.** -/
theorem itemText?_typeText :
    itemText? (names.typeText ref) = ref.item?.map names.typeText := by
  rw [itemText?, bareText_typeText hplain]
  cases hitem : ref.item? with
  | none =>
    rw [requiredText_of_no_item hitem]
    exact unwrap?_of_not_mem hplain _
  | some item => simp [requiredText_of_item hitem]

end

/-- So many vectors deep is the type of what is so many lists deep. -/
theorem textAt?_typeText (hplain : '<' ∉ (names.ident ref.namedType).toList) (depth : Nat) :
    textAt? depth (names.typeText ref) = (ref.at? depth).map names.typeText := by
  induction depth generalizing ref with
  | zero => rfl
  | succ depth ih =>
    rw [textAt?, TypeRef.at?, itemText?_typeText hplain]
    cases hitem : ref.item? with
    | none => rfl
    | some item => exact ih (TypeRef.namedType_item hitem ▸ hplain)

/-- The outermost level of a text is wrapped like that of a reference. -/
structure WrappedLike (names : Names) (text : String) (ref : TypeRef) : Prop where
  /-- It may be absent exactly if the reference may be null. -/
  option_iff : (unwrap? .option text).isSome = true ↔ ref.isNonNull = false
  /-- It is a vector exactly if the reference is a list. -/
  vec_iff : (itemText? text).isSome = true ↔ ref.item?.isSome = true
  /-- Otherwise nothing is left but the identifier. -/
  ident_eq : ref.item? = none → bareText text = names.ident ref.namedType

theorem wrappedLike_typeText (hplain : '<' ∉ (names.ident ref.namedType).toList) :
    WrappedLike names (names.typeText ref) ref where
  option_iff := by
    rw [unwrap?_typeText hplain]
    cases ref.isNonNull <;> simp
  vec_iff := by
    rw [itemText?_typeText hplain, Option.isSome_map]
  ident_eq hitem := by
    rw [bareText_typeText hplain, requiredText_of_no_item hitem]

/-- No two references have types with the same text.  The induction is on what lists contain: the
texts agree on their outermost level, and what is in it has the same text again. -/
theorem eq_of_typeText_eq {t u : TypeRef} (ht : t.IsProper) (hu : u.IsProper)
    (htplain : '<' ∉ (names.ident t.namedType).toList)
    (huplain : '<' ∉ (names.ident u.namedType).toList)
    (hdistinct : t.namedType ≠ u.namedType →
      names.ident t.namedType ≠ names.ident u.namedType)
    (h : names.typeText t = names.typeText u) : t = u := by
  induction t using TypeRef.item_induction generalizing u with
  | h t ih =>
    have hnull : t.isNonNull = u.isNonNull := by
      have hoption : t.isNonNull = false ↔ u.isNonNull = false := by
        rw [← (wrappedLike_typeText htplain).option_iff, h,
          (wrappedLike_typeText huplain).option_iff]
      rw [Bool.eq_iff_iff]
      simpa using not_congr hoption
    have hitems : t.item?.map names.typeText = u.item?.map names.typeText := by
      rw [← itemText?_typeText htplain, ← itemText?_typeText huplain, h]
    cases hti : t.item? with
    | none =>
      have hui : u.item? = none := by simpa [hti] using hitems.symm
      have hident : names.ident t.namedType = names.ident u.namedType := by
        rw [← (wrappedLike_typeText htplain).ident_eq hti,
          ← (wrappedLike_typeText huplain).ident_eq hui, h]
      have hnamed : t.namedType = u.namedType := by
        by_contra hne
        exact hdistinct hne hident
      exact TypeRef.ext_item ht hu hnull (hti.trans hui.symm) hnamed
    | some i =>
      rw [hti, Option.map_some] at hitems
      obtain ⟨j, huj, htexts⟩ := Option.map_eq_some_iff.1 hitems.symm
      have hti' := TypeRef.namedType_item hti
      have huj' := TypeRef.namedType_item huj
      have hij : i = j := ih i hti (ht.item hti) (hu.item huj) (hti' ▸ htplain) (huj' ▸ huplain)
        (by rwa [hti', huj']) htexts.symm
      have hnamed : t.namedType = u.namedType := by
        rw [← hti', ← huj', hij]
      exact TypeRef.ext_item ht hu hnull (by rw [hti, huj, hij]) hnamed

/-- **The text of a type is wrapped exactly as its reference is**: in `Option` where the schema
allows null and in `Vec` where it has a list, at every level.  So references with the same text are
the same, if their named types have different identifiers wherever they are different, and these
open no brackets. -/
theorem typeText_exact (names : Names) {t u : TypeRef} (ht : t.IsProper) (hu : u.IsProper)
    (htplain : '<' ∉ (names.ident t.namedType).toList)
    (huplain : '<' ∉ (names.ident u.namedType).toList)
    (hdistinct : t.namedType ≠ u.namedType →
      names.ident t.namedType ≠ names.ident u.namedType) :
    (names.typeText t = names.typeText u → t = u)
      ∧ ∀ depth, textAt? depth (names.typeText t) = (t.at? depth).map names.typeText
        ∧ ∀ ref, t.at? depth = some ref → WrappedLike names (names.typeText ref) ref := by
  refine ⟨eq_of_typeText_eq ht hu htplain huplain hdistinct, fun depth ↦ ?_⟩
  refine ⟨textAt?_typeText htplain depth, fun ref href ↦ wrappedLike_typeText ?_⟩
  rwa [TypeRef.namedType_at? href]

/-- A graph in which an enum is called like a keyword. -/
def tagGraph : TypeGraph where
  types := [⟨"ID", none, .scalar none⟩, ⟨"type", none, .enum [⟨"A", none, none⟩]⟩]
  roots := ⟨none, none, none⟩

/-- Rows of tags, each of which may be missing. -/
def tagRows : TypeRef := .nonNull (.list (.list (.nonNull (.named ⟨1⟩))))

/-- Rows of keys, which may be missing as well as the keys in them. -/
def keyRows : TypeRef := .list (.nonNull (.list (.named ⟨0⟩)))

theorem typeText_exact_rows :
    tagRows.IsProper ∧ keyRows.IsProper
      ∧ (ofGraph tagGraph .default).typeText tagRows = "Vec<Option<Vec<r#type>>>"
      ∧ (ofGraph tagGraph .default).typeText keyRows = "Option<Vec<Vec<Option<ID>>>>"
      ∧ ((ofGraph tagGraph .default).typeText tagRows = (ofGraph tagGraph .default).typeText keyRows
        → tagRows = keyRows)
      ∧ ∀ depth, textAt? depth ((ofGraph tagGraph .default).typeText tagRows)
          = (tagRows.at? depth).map (ofGraph tagGraph .default).typeText
        ∧ ∀ ref, tagRows.at? depth = some ref →
          WrappedLike (ofGraph tagGraph .default) ((ofGraph tagGraph .default).typeText ref)
            ref := by
  have htags : tagRows.IsProper := by simp [tagRows, TypeRef.IsProper, TypeRef.isNonNull]
  have hkeys : keyRows.IsProper := by simp [keyRows, TypeRef.IsProper, TypeRef.isNonNull]
  refine ⟨htags, hkeys, by decide +kernel, by decide +kernel, ?_⟩
  exact typeText_exact (ofGraph tagGraph .default) htags hkeys (by decide +kernel)
    (by decide +kernel) fun _ ↦ by decide +kernel

end Names
end Code
end QueryBuilder
