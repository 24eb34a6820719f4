import QueryBuilder.Proofs.Code.Closed
import QueryBuilder.Proofs.Code.TypeText

/-!
# Structs of finite size

Input objects may refer to themselves and to each other, through fields that are required or not and
through lists.  A struct that held another one as a value of its own could then have no size.  The
structs of input objects do not: where a member is of an input object, something stands around it
that holds its value elsewhere.

## What is here

* `TypeExpr.wrappers` — what stands around the identifier in a type, from the outside.  The text of
  the type is the identifier in the texts of its wrappers (`TypeExpr.print_eq`).
* `TypeExpr.vec_mem_wrappers_ofRef_iff`, `TypeExpr.box_mem_wrappers_ofRef_iff` — the vectors of a
  type come from lists, and it has a box if it is to be boxed and has no vectors.
* `StructMember.IndirectFor` — the member for a field is declared with the type of the field,
  indirectly where that is an input object, and boxed only there.
* `InputStruct.struct_infix_lines` — the declarations of members are in the source.
* `Holds` — the struct of one type holds a value of another one.
* `input_structs_finite` — all members of generated structs are indirect where they have to be, so
  there are no chains of values that hold values without end.
-/

set_option autoImplicit false

namespace QueryBuilder
namespace Code

open Schema

/-! ## Wrappers -/

namespace TypeExpr

/-- What stands around the identifier, from the outside. -/
def wrappers : TypeExpr → List Wrapper
  | .named _ => []
  | .option inner => .option :: inner.wrappers
  | .vec item => .vec :: item.wrappers
  | .boxed inner => .box :: inner.wrappers

/-- **The text of a type is its identifier in its wrappers.** -/
theorem print_eq (t : TypeExpr) : t.print = t.wrappers.foldr wrap t.ident := by
  induction t with
  | named ident => rfl
  | option inner ih | vec inner ih | boxed inner ih =>
    rw [print, ih]
    rfl

/-- A value of the type holds its own values elsewhere, however many there are. -/
def IsIndirect (t : TypeExpr) : Prop :=
  .box ∈ t.wrappers ∨ .vec ∈ t.wrappers

/-- Whether a type is optional makes no difference to its other wrappers. -/
theorem mem_wrappers_nullableIf {w : Wrapper} (hw : w ≠ .option) {nullable : Bool} {t : TypeExpr} :
    w ∈ (nullableIf nullable t).wrappers ↔ w ∈ t.wrappers := by
  cases nullable <;> simp [nullableIf, wrappers, hw]

variable {identOf : TypeId → String} {box : Bool} {ref : TypeRef}

/-- Vectors come from lists. -/
theorem vec_mem_wrappers_ofRef_iff :
    .vec ∈ (ofRef identOf box ref).wrappers ↔ ref.containsList = true := by
  rw [ofRef_eq, mem_wrappers_nullableIf (by decide), ofRefIn_eq, TypeRef.containsList_eq]
  cases ref.item? with
  | none => cases box <;> simp [wrappers]
  | some item => simp [wrappers]

/-- Nothing is boxed unless it is asked for. -/
theorem box_not_mem_wrappers_ofRef : .box ∉ (ofRef identOf false ref).wrappers := by
  induction ref using TypeRef.item_induction with
  | h ref ih =>
    rw [ofRef_eq, mem_wrappers_nullableIf (by decide), ofRefIn_eq]
    cases hitem : ref.item? with
    | none => simp [wrappers]
    | some item => simpa [wrappers] using ih item hitem

/-- Nothing is boxed that is in a vector. -/
theorem box_mem_wrappers_ofRef_iff :
    .box ∈ (ofRef identOf box ref).wrappers ↔ box = true ∧ ref.containsList = false := by
  rw [ofRef_eq, mem_wrappers_nullableIf (by decide), ofRefIn_eq, TypeRef.containsList_eq]
  cases ref.item? with
  | none => cases box <;> simp [wrappers]
  | some item => simp [wrappers, box_not_mem_wrappers_ofRef]

end TypeExpr

/-! ## Members -/

/-- The member for a field is declared with the identifier of its type in wrappers.  Where the type
is an input object one of them holds it elsewhere, and boxes are used nowhere else. -/
structure StructMember.IndirectFor (g : TypeGraph) (names : Names) (f : InputValue)
    (m : StructMember) : Prop where
  field : m.field = f.name
  print_eq : m.type.print = m.type.wrappers.foldr wrap (names.ident f.type.namedType)
  /-- The line that declares the member, below its description. -/
  lines_eq : m.lines = docLines f.description? ++ [line
    s!"pub {m.ident}: {m.type.wrappers.foldr wrap (names.ident f.type.namedType)},"]
  isIndirect : g.kindOf? f.type.namedType = some .inputObject → m.type.IsIndirect
  of_box : .box ∈ m.type.wrappers → g.kindOf? f.type.namedType = some .inputObject

theorem StructMember.print_ofField (g : TypeGraph) (names : Names) (f : InputValue)
    (ident : String) : (ofField g names f ident).type.print
      = (ofField g names f ident).type.wrappers.foldr wrap (names.ident f.type.namedType) := by
  rw [TypeExpr.print_eq]
  simp only [ofField, TypeExpr.ident_ofRef]

/-- **Members are indirect where they have to be.**  A box is asked for if the type is an input
object and has no list around it, and in the other case there is a vector. -/
theorem StructMember.indirectFor_ofField (g : TypeGraph) (names : Names) (f : InputValue)
    (ident : String) : (ofField g names f ident).IndirectFor g names f where
  field := rfl
  print_eq := print_ofField g names f ident
  lines_eq := by
    rw [lines, print_ofField]
    rfl
  isIndirect hkind := by
    show _ ∨ _
    simp only [ofField, TypeExpr.box_mem_wrappers_ofRef_iff, TypeExpr.vec_mem_wrappers_ofRef_iff,
      holdsInputObject, hkind]
    cases f.type.containsList <;> simp
  of_box hbox := by
    simp only [ofField, TypeExpr.box_mem_wrappers_ofRef_iff, holdsInputObject] at hbox
    simpa [hbox.2] using hbox.1

/-! ## Structs -/

/-- The fields of an input object that its struct has members for. -/
def knownFields (g : TypeGraph) (options : Options) (fields : List InputValue) : List InputValue :=
  fields.filter fun f ↦ isKnown g options f.type.namedType

theorem forall₂_zip_map {α β γ : Type} {R : α → γ → Prop} {f : α × β → γ} {l : List α} {m : List β}
    (hlength : l.length ≤ m.length) (h : ∀ a b, R a (f (a, b))) :
    List.Forall₂ R l ((l.zip m).map f) := by
  conv => arg 2; rw [← List.map_fst_zip hlength]
  rw [List.forall₂_map_left_iff, List.forall₂_map_right_iff, List.forall₂_same]
  rintro ⟨a, b⟩ -
  exact h a b

/-- A struct has a member for each known field, in order, and all of them are indirect where they
have to be. -/
theorem InputStruct.forall₂_members (g : TypeGraph) (options : Options) (names : Names)
    (id : TypeId) (t : NamedType) (fields : List InputValue) :
    List.Forall₂ (StructMember.IndirectFor g names) (knownFields g options fields)
      (ofType g options names id t fields).members :=
  forall₂_zip_map (by simp [knownFields]) (StructMember.indirectFor_ofField g names)

/-- The source of an input object has the struct with all of its members. -/
theorem InputStruct.struct_infix_lines (s : InputStruct) :
    braced s!"pub struct {s.ident}" (s.members.flatMap StructMember.lines) <:+: s.lines :=
  ⟨_, _, (List.append_assoc _ _ _).symm⟩

/-- The struct of the type at an address holds a value of the type at another one: it has a member
for a field of that type, with nothing around it that holds the value elsewhere. -/
def Holds (g : TypeGraph) (options : Options) (names : Names) (id target : TypeId) : Prop :=
  ∃ t fields s, g.get? id = some t ∧ t.body = .inputObject fields
    ∧ Declaration.ofType? g options names id t = some (.inputStruct s)
    ∧ ∃ entry ∈ (knownFields g options fields).zip s.members,
      entry.1.type.namedType = target ∧ ¬ entry.2.type.IsIndirect

section

variable {g : TypeGraph} {options : Options} {names : Names} {id target : TypeId}

/-- What holds something is an input object, -/
theorem Holds.kindOf?_eq (h : Holds g options names id target) :
    g.kindOf? id = some .inputObject := by
  obtain ⟨t, fields, -, hget, hbody, -⟩ := h
  rw [TypeGraph.kindOf?, hget, Option.map_some, NamedType.kind, hbody, TypeBody.kind]

/-- and what is held is none. -/
theorem Holds.kindOf?_ne (h : Holds g options names id target) :
    g.kindOf? target ≠ some .inputObject := by
  obtain ⟨t, fields, s, -, hbody, hs, ⟨f, m⟩, hentry, rfl, hdirect⟩ := h
  rw [Declaration.ofType?, hbody] at hs
  obtain rfl := Declaration.inputStruct.inj (Option.some.inj hs)
  have hm := List.forall₂_zip (InputStruct.forall₂_members g options names id t fields) hentry
  exact fun hkind ↦ hdirect (hm.isIndirect hkind)

end

/-- **Generated structs are of finite size.**  The source of an input object declares a struct with
one member for each known field.  Every member that is of an input object is so inside of a box or a
vector, and no other member has a box.  So whatever a struct holds is no struct that holds something
again. -/
theorem input_structs_finite (g : TypeGraph) (options : Options) (names : Names) :
    (∀ id t fields, t.body = .inputObject fields →
        ∃ s, Declaration.ofType? g options names id t = some (.inputStruct s)
          ∧ braced s!"pub struct {s.ident}" (s.members.flatMap StructMember.lines)
            <:+: (Declaration.inputStruct s).lines
          ∧ List.Forall₂ (StructMember.IndirectFor g names) (knownFields g options fields)
            s.members)
      ∧ WellFounded fun target id ↦ Holds g options names id target := by
  constructor
  · intro id t fields hbody
    refine ⟨InputStruct.ofType g options names id t fields, by rw [Declaration.ofType?, hbody],
      InputStruct.struct_infix_lines _, ?_⟩
    exact InputStruct.forall₂_members g options names id t fields
  · refine ⟨fun id ↦ ⟨id, fun target htarget ↦ ⟨target, fun other hother ↦ ?_⟩⟩⟩
    exact absurd hother.kindOf?_eq htarget.kindOf?_ne

/-- The fields of an input object that contains itself and others like it. -/
def filterFields : List InputValue := [
  ⟨"not", none, .named ⟨0⟩, none⟩,
  ⟨"any", none, .nonNull (.list (.list (.nonNull (.named ⟨0⟩)))), none⟩,
  ⟨"range", none, .nonNull (.named ⟨1⟩), none⟩,
  ⟨"hidden", none, .named ⟨2⟩, none⟩,
  ⟨"type", none, .named ⟨3⟩, none⟩]

/-- A graph in which two input objects contain each other. -/
def filterGraph : TypeGraph where
  types := [
    ⟨"Filter", none, .inputObject filterFields⟩,
    ⟨"Range", none, .inputObject [⟨"within", none, .nonNull (.named ⟨0⟩), none⟩]⟩,
    ⟨"__Hidden", none, .inputObject []⟩,
    ⟨"ID", none, .scalar none⟩]
  roots := ⟨none, none, none⟩

theorem input_structs_finite_filterGraph :
    ∃ s, Declaration.ofType? filterGraph .default (.ofGraph filterGraph .default) ⟨0⟩
          ⟨"Filter", none, .inputObject filterFields⟩ = some (.inputStruct s)
      ∧ (s.members.map fun m ↦ (m.ident, m.type.print))
        = [("not", "Option<Box<Filter>>"), ("any", "Vec<Option<Vec<Filter>>>"),
          ("range", "Box<Range>"), ("r#type", "Option<ID>")]
      ∧ (braced s!"pub struct {s.ident}" (s.members.flatMap StructMember.lines)).map (·.text)
        = ["pub struct Filter \x7b", "pub not: Option<Box<Filter>>,",
          "pub any: Vec<Option<Vec<Filter>>>,", "pub range: Box<Range>,", "pub r#type: Option<ID>,",
          "\x7d"]
      ∧ braced s!"pub struct {s.ident}" (s.members.flatMap StructMember.lines)
        <:+: (Declaration.inputStruct s).lines
      ∧ List.Forall₂ (StructMember.IndirectFor filterGraph (.ofGraph filterGraph .default))
        (knownFields filterGraph .default filterFields) s.members
      ∧ WellFounded fun target id ↦
        Holds filterGraph .default (.ofGraph filterGraph .default) id target := by
  obtain ⟨hstructs, hholds⟩ :=
    input_structs_finite filterGraph .default (.ofGraph filterGraph .default)
  obtain ⟨s, hs, hsource, hmembers⟩ :=
    hstructs ⟨0⟩ ⟨"Filter", none, .inputObject filterFields⟩ filterFields rfl
  refine ⟨s, hs, ?_, ?_, hsource, hmembers, hholds⟩ <;>
    obtain rfl := Declaration.inputStruct.inj (Option.some.inj hs)
  · decide +kernel
  · decide +kernel

end Code
end QueryBuilder
