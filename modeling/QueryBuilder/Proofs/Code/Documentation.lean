import QueryBuilder.Proofs.Code.CodeLines
import QueryBuilder.Proofs.Code.Heads
import QueryBuilder.Proofs.Name.Separator

/-!
# Documentation does not reach code

Descriptions and the reasons of deprecations are texts that anyone may have written.  They are put
into generated source at many places, and at each of them they stay on lines of documentation.

* `TypeGraph.undocumented` — a graph without descriptions and deprecations.
* `Declaration.ofType?_undocumented` — what is generated without them is what is generated with
  them, without them.
* `Declaration.sameCode_undocumented` — and that is written with the same code.
* `map_code_eq_of_undocumented_eq` — so graphs that differ in nothing else give the same code.
* `argument_description_in_code` — a parameter is documented by its name, and there the description
  comes after it on the same line.  A line break in the name of an argument lets it out.
-/

set_option autoImplicit false

namespace QueryBuilder

/-! ## Graphs without documentation -/

namespace Schema

/-- The input value without its description. -/
def InputValue.undocumented (v : InputValue) : InputValue :=
  { v with description? := none }

/-- The argument without its description, which it keeps if there is a line break in its name. -/
def InputValue.undocumentedArgument (a : InputValue) : InputValue :=
  if '\n' ∈ a.name.toList then a else a.undocumented

/-- The field without its documentation and that of its arguments. -/
def Field.undocumented (f : Field) : Field :=
  { f with
    description? := none
    arguments := f.arguments.map InputValue.undocumentedArgument
    deprecation? := none }

/-- The enum value without its documentation. -/
def EnumValue.undocumented (v : EnumValue) : EnumValue :=
  { v with description? := none, deprecation? := none }

/-- The body without the documentation of what it holds. -/
def TypeBody.undocumented : TypeBody → TypeBody
  | .object fields interfaces => .object (fields.map Field.undocumented) interfaces
  | .interface fields possibleTypes => .interface (fields.map Field.undocumented) possibleTypes
  | .union possibleTypes => .union possibleTypes
  | .enum values => .enum (values.map EnumValue.undocumented)
  | .scalar source? => .scalar source?
  | .inputObject inputFields => .inputObject (inputFields.map InputValue.undocumented)

/-- The type without its documentation. -/
def NamedType.undocumented (t : NamedType) : NamedType :=
  { t with description? := none, body := t.body.undocumented }

/-- The graph without descriptions and deprecations. -/
def TypeGraph.undocumented (g : TypeGraph) : TypeGraph :=
  g.mapTypes NamedType.undocumented

theorem NamedType.kind_undocumented (t : NamedType) : t.undocumented.kind = t.kind := by
  obtain ⟨name, description?, body⟩ := t
  cases body <;> rfl

theorem NamedType.keepsHeads_undocumented : KeepsHeads undocumented where
  name _ := rfl
  kind := kind_undocumented

theorem InputValue.name_undocumentedArgument (a : InputValue) :
    a.undocumentedArgument.name = a.name := by
  rw [undocumentedArgument]
  split_ifs <;> rfl

theorem InputValue.type_undocumentedArgument (a : InputValue) :
    a.undocumentedArgument.type = a.type := by
  rw [undocumentedArgument]
  split_ifs <;> rfl

theorem NamedType.fields_undocumented (t : NamedType) :
    t.undocumented.fields = t.fields.map Field.undocumented := by
  obtain ⟨name, description?, body⟩ := t
  cases body <;> rfl

theorem NamedType.possibleTypes_undocumented (t : NamedType) :
    t.undocumented.possibleTypes = t.possibleTypes := by
  obtain ⟨name, description?, body⟩ := t
  cases body <;> rfl

theorem NamedType.scalarSource?_undocumented (t : NamedType) :
    t.undocumented.scalarSource? = t.scalarSource? := by
  obtain ⟨name, description?, body⟩ := t
  cases body <;> rfl

end Schema

namespace Code

open Schema

/-! ## Declarations without documentation -/

/-- The methods without the documentation of their field. -/
def Accessor.undocumented (a : Accessor) : Accessor :=
  { a with description? := none, deprecation? := none }

/-- The parameter without its description, which it keeps if there is a line break in its
identifier. -/
def Parameter.undocumented (p : Parameter) : Parameter :=
  if '\n' ∈ p.ident.toList then p else { p with description? := none }

/-- The methods without the documentation of their field and their parameters. -/
def Selector.undocumented (s : Selector) : Selector :=
  { s with
    parameters := s.parameters.map Parameter.undocumented
    description? := none
    deprecation? := none }

/-- The composite type without documentation. -/
def Composite.undocumented (c : Composite) : Composite :=
  { c with
    description? := none
    accessors := c.accessors.map Accessor.undocumented
    selectors := c.selectors.map Selector.undocumented }

/-- The variant without documentation. -/
def Variant.undocumented (v : Variant) : Variant :=
  { v with description? := none, deprecation? := none }

/-- The enum without documentation. -/
def Enumeration.undocumented (e : Enumeration) : Enumeration :=
  { e with description? := none, variants := e.variants.map Variant.undocumented }

/-- The member without documentation. -/
def StructMember.undocumented (m : StructMember) : StructMember :=
  { m with description? := none }

/-- The input object without documentation. -/
def InputStruct.undocumented (s : InputStruct) : InputStruct :=
  { s with description? := none, members := s.members.map StructMember.undocumented }

/-- The declaration without documentation. -/
def Declaration.undocumented : Declaration → Declaration
  | .composite c => .composite c.undocumented
  | .enumeration e => .enumeration e.undocumented
  | .inputStruct s => .inputStruct s.undocumented

/-- The unit without documentation. -/
def TypeUnit.undocumented (u : TypeUnit) : TypeUnit :=
  { u with declaration := u.declaration.undocumented }

/-- The aliases without documentation. -/
def Aliases.undocumented (a : Aliases) : Aliases :=
  { a with scalars := a.scalars.map fun scalar ↦ { scalar with description? := none } }

section

variable (g : TypeGraph) (options : Options) (names : Names) (id : TypeId)

theorem isUsable_undocumented (f : Field) :
    isUsable g options f.undocumented = isUsable g options f := by
  have harguments (a : InputValue) : isKnown g options a.undocumentedArgument.type.namedType
      = isKnown g options a.type.namedType := by
    rw [a.type_undocumentedArgument]
  rw [isUsable, Field.undocumented, isUsable, List.all_map]
  exact congrArg (_ && f.arguments.all ·) (funext harguments)

theorem filter_isUsable_undocumented (fields : List Field) :
    (fields.map Field.undocumented).filter (isUsable g options)
      = (fields.filter (isUsable g options)).map Field.undocumented := by
  rw [List.filter_map]
  exact congrArg (fun p ↦ (fields.filter p).map _) (funext (isUsable_undocumented g options))

/-- Methods are claimed by the names of fields. -/
theorem claimMethods_undocumented (scope : Name.Scope) (ending : String) (fields : List Field) :
    claimMethods scope ending (fields.map Field.undocumented)
      = ((claimMethods scope ending fields).1.map fun claim ↦ (claim.1.undocumented, claim.2),
        (claimMethods scope ending fields).2) := by
  simp only [claimMethods, List.map_map]
  exact Prod.ext List.zip_map_left rfl

theorem Accessor.ofFields_undocumented (fields : List Field) :
    ofFields names (fields.map Field.undocumented)
      = (ofFields names fields).map Accessor.undocumented := by
  rw [ofFields, claimMethods_undocumented, ofFields, List.map_map, List.map_map]
  rfl

/-- **A parameter has a line break in its identifier exactly if its argument has one in its name**,
so both keep their descriptions or none does. -/
theorem Parameter.ofArgument_undocumented {a : InputValue} {ident : String}
    (h : '\n' ∈ ident.toList ↔ '\n' ∈ a.name.toList) :
    ofArgument names a.undocumentedArgument ident = (ofArgument names a ident).undocumented := by
  by_cases hname : '\n' ∈ a.name.toList
  · have hident : '\n' ∈ (ofArgument names a ident).ident.toList := h.2 hname
    rw [InputValue.undocumentedArgument, if_pos hname, undocumented, if_pos hident]
  · have hident : '\n' ∉ (ofArgument names a ident).ident.toList := mt h.1 hname
    rw [InputValue.undocumentedArgument, if_neg hname, undocumented, if_neg hident]
    rfl

theorem Parameter.ofArguments_undocumented (arguments : List InputValue) :
    ofArguments names (arguments.map InputValue.undocumentedArgument)
      = (ofArguments names arguments).map Parameter.undocumented := by
  have hnames : (arguments.map InputValue.undocumentedArgument).map (·.name)
      = arguments.map (·.name) := by
    rw [List.map_map]
    exact List.map_congr_left fun a _ ↦ a.name_undocumentedArgument
  have hscope : (Name.Scope.ofReserved .snake ["build", "arguments", "self"]).convention = .snake :=
    rfl
  have hbreaks := List.forall₂_map_left_iff.1 (Name.Scope.mem_claimAll_iff
    Name.isSeparator_newline hscope (arguments.map (·.name)))
  simp only [ofArguments, hnames, List.zip_map_left, List.map_map]
  exact List.map_congr_left fun claim hclaim ↦
    ofArgument_undocumented names ((List.forall₂_iff_zip.1 hbreaks).2 hclaim)

theorem Selector.ofFields_undocumented (fields : List Field) :
    ofFields g names (fields.map Field.undocumented)
      = (ofFields g names fields).map Selector.undocumented := by
  rw [ofFields, claimMethods_undocumented, ofFields, List.map_map, List.map_map]
  refine List.map_congr_left fun claim _ ↦ ?_
  simp only [Function.comp_apply, ofField, undocumented, Field.undocumented,
    Parameter.ofArguments_undocumented]

theorem Member.ofType_undocumented (t : NamedType) (fields : List Field) :
    ofType g names t.undocumented (fields.map Field.undocumented) = ofType g names t fields := by
  simp only [ofType, memberIds, t.possibleTypes_undocumented, claimMethods_undocumented]

theorem Composite.ofType_undocumented (t : NamedType) :
    ofType g options names id t.undocumented = (ofType g options names id t).undocumented := by
  simp only [ofType, undocumented, t.fields_undocumented, filter_isUsable_undocumented,
    Accessor.ofFields_undocumented, Selector.ofFields_undocumented, Member.ofType_undocumented,
    t.kind_undocumented]
  rfl

theorem Enumeration.ofType_undocumented (t : NamedType) (values : List EnumValue) :
    ofType names id t.undocumented (values.map EnumValue.undocumented)
      = (ofType names id t values).undocumented := by
  simp only [ofType, undocumented, variantsOf, List.map_map, List.zip_map_left]
  rfl

theorem InputStruct.ofType_undocumented (t : NamedType) (fields : List InputValue) :
    ofType g options names id t.undocumented (fields.map InputValue.undocumented)
      = (ofType g options names id t fields).undocumented := by
  simp only [ofType, undocumented, List.filter_map, List.map_map, List.zip_map_left]
  rfl

/-- **A declaration is generated without documentation as it is with it.** -/
theorem Declaration.ofType?_undocumented (t : NamedType) :
    ofType? g options names id t.undocumented
      = (ofType? g options names id t).map Declaration.undocumented := by
  have hcomposite := Composite.ofType_undocumented g options names id t
  obtain ⟨name, description?, body⟩ := t
  cases body with
  | object => exact congrArg (some ∘ Declaration.composite) hcomposite
  | interface => exact congrArg (some ∘ Declaration.composite) hcomposite
  | union => exact congrArg (some ∘ Declaration.composite) hcomposite
  | enum values =>
    exact congrArg (some ∘ Declaration.enumeration)
      (Enumeration.ofType_undocumented names id ⟨name, description?, .enum values⟩ values)
  | scalar => rfl
  | inputObject fields =>
    exact congrArg (some ∘ Declaration.inputStruct) (InputStruct.ofType_undocumented g options names
      id ⟨name, description?, .inputObject fields⟩ fields)

theorem typeUnit?_undocumented (entry : TypeId × NamedType) :
    typeUnit? g options names (entry.1, entry.2.undocumented)
      = (typeUnit? g options names entry).map TypeUnit.undocumented := by
  rw [typeUnit?, typeUnit?, Declaration.ofType?_undocumented, entry.2.kind_undocumented]
  cases (names.get? entry.1).bind (·.module?) with
  | none => rfl
  | some module =>
    cases unitKind? entry.2.kind with
    | none => rfl
    | some kind => cases Declaration.ofType? g options names entry.1 entry.2 <;> rfl

theorem typeUnits_undocumented : typeUnits g.undocumented options names
    = (typeUnits g options names).map TypeUnit.undocumented := by
  rw [TypeGraph.undocumented, typeUnits_mapTypes NamedType.keepsHeads_undocumented, typeUnits,
    List.map_filterMap]
  exact List.filterMap_congr fun entry _ ↦ typeUnit?_undocumented g options names entry

theorem Aliases.ofGraph_undocumented :
    ofGraph g.undocumented names = (ofGraph g names).undocumented := by
  have hcustom : customScalars g.undocumented
      = (customScalars g).map fun entry ↦ (entry.1, entry.2.undocumented) := by
    rw [customScalars, TypeGraph.undocumented, TypeGraph.entries_mapTypes, List.filter_map,
      customScalars]
    refine congrArg (List.map _) (List.filter_congr fun entry _ ↦ ?_)
    obtain ⟨id, t⟩ := entry
    simp only [Function.comp_apply, isBuiltinScalar_eq NamedType.keepsHeads_undocumented,
      t.kind_undocumented]
  have halias (entry : TypeId × NamedType) : aliasOf? names (entry.1, entry.2.undocumented)
      = (aliasOf? names entry).map fun scalar ↦ { scalar with description? := none } := by
    rw [aliasOf?, entry.2.scalarSource?_undocumented, aliasOf?]
    cases entry.2.scalarSource? <;> rfl
  have hinline (entry : TypeId × NamedType) : inlineOf? (entry.1, entry.2.undocumented)
      = inlineOf? entry := by
    rw [inlineOf?, entry.2.scalarSource?_undocumented, inlineOf?]
  simp only [ofGraph, undocumented, hcustom, List.filterMap_map, Function.comp_def, halias, hinline,
    List.map_filterMap]

end

/-! ## How declarations are written -/

theorem Accessor.sameCode_undocumented (a : Accessor) : SameCode a.lines a.undocumented.lines :=
  ((((SameCode.cons blank (sameCode_docLines _ _)).append (sameCode_deprecationLines _ _)).append_right
    _).append_right _).append (sameCode_deprecationLines _ _) |>.append_right _

/-- What a parameter is documented by, up to its default. -/
def Parameter.comment (p : Parameter) : String :=
  s!"/// - `{p.ident}`" ++ match p.description? with
    | none => ""
    | some d => ": " ++ Text.trim ((Text.lines d).head?.getD "")

/-- What is said about the default of a parameter. -/
def Parameter.defaultComment (p : Parameter) : String :=
  match p.default? with
  | none => ""
  | some d => s!" (defaults to `{d}`)"

/-- The comment on a parameter, if it has one. -/
def Parameter.docLines (p : Parameter) : List Line :=
  if p.isDocumented then [p.docLine] else []

/-- **Only the first line of a description comes behind an identifier.** -/
theorem Parameter.opensDocumentation_comment {p : Parameter} (h : '\n' ∉ p.ident.toList) :
    OpensDocumentation p.comment.toList := by
  have hfirst (d : String) : '\n' ∉ (Text.trim ((Text.lines d).head?.getD "")).toList := by
    refine fun hmem ↦ absurd (Text.mem_of_mem_trim hmem) ?_
    cases hhead : (Text.lines d).head? with
    | none => exact List.not_mem_nil
    | some l => exact Text.newline_not_mem_of_mem_lines (List.mem_of_head? hhead)
  obtain ⟨rest, hrest, hcomment⟩ : ∃ rest, '\n' ∉ rest
      ∧ p.comment.toList = "///".toList ++ rest := by
    rw [comment]
    cases p.description? with
    | none => exact ⟨" - `".toList ++ p.ident.toList ++ "`".toList, by simp [h], by simp [toString]⟩
    | some d =>
      exact ⟨" - `".toList ++ p.ident.toList ++ "`: ".toList
        ++ (Text.trim ((Text.lines d).head?.getD "")).toList, by simp [h, hfirst d],
        by simp [toString]⟩
  rw [hcomment]
  exact Code.opensDocumentation_comment _ hrest

theorem Parameter.codeAt_docLines {p : Parameter} (h : '\n' ∉ p.ident.toList) (depth : Nat) :
    codeAt depth p.docLines = codeBehindBreak p.defaultComment.toList := by
  rw [docLines]
  split_ifs with hdocumented
  · exact (opensDocumentation_comment h).codeAt_line p.defaultComment depth
  · rw [isDocumented, Bool.or_eq_true, not_or, Option.not_isSome_iff_eq_none,
      Option.not_isSome_iff_eq_none] at hdocumented
    rw [defaultComment, hdocumented.2]
    rfl

theorem Parameter.sameCode_undocumented (p : Parameter) :
    SameCode p.docLines p.undocumented.docLines := by
  by_cases h : '\n' ∈ p.ident.toList
  · rw [undocumented, if_pos h]
    exact .refl _
  · intro depth
    rw [undocumented, if_neg h, codeAt_docLines h]
    exact (codeAt_docLines (p := { p with description? := none }) h depth).symm

theorem sameCode_parameterDocLines (described : Bool) (ps : List Parameter) :
    SameCode (parameterDocLines described ps) (ps.flatMap Parameter.docLines) := by
  have hlines : ps.flatMap Parameter.docLines
      = (ps.filter Parameter.isDocumented).map Parameter.docLine := by
    induction ps with
    | nil => rfl
    | cons p ps ih =>
      rw [List.flatMap_cons, ih, Parameter.docLines, List.filter_cons]
      split_ifs <;> rfl
  rw [hlines, parameterDocLines]
  cases ps.filter Parameter.isDocumented with
  | nil => exact .refl []
  | cons p rest =>
    refine SameCode.append (?_ : SameCode _ []) (.refl _)
    cases described with
    | false => exact .refl []
    | true =>
      have hopens : OpensDocumentation "///".toList := opensDocumentation_comment [] List.not_mem_nil
      exact hopens.sameCode

theorem Selector.sameCode_headLines (s : Selector) :
    SameCode s.headLines s.undocumented.headLines := by
  refine ((sameCode_docLines _ _).append ?_).append (sameCode_deprecationLines _ _)
  refine (sameCode_parameterDocLines _ _).trans (.trans ?_ (sameCode_parameterDocLines _ _).symm)
  rw [undocumented, List.flatMap_map]
  exact .flatMap Parameter.sameCode_undocumented

theorem Parameter.ident_undocumented (p : Parameter) : p.undocumented.ident = p.ident := by
  rw [undocumented]
  split_ifs <;> rfl

theorem Parameter.type_undocumented (p : Parameter) : p.undocumented.type = p.type := by
  rw [undocumented]
  split_ifs <;> rfl

theorem Parameter.argumentLine_undocumented (p : Parameter) :
    p.undocumented.argumentLine = p.argumentLine := by
  rw [undocumented]
  split_ifs <;> rfl

theorem Selector.signature_undocumented (s : Selector) :
    s.undocumented.signature = s.signature := by
  simp only [signature, undocumented, List.map_map, Function.comp_def,
    Parameter.ident_undocumented, Parameter.type_undocumented]

theorem Selector.forwarded_undocumented (s : Selector) :
    s.undocumented.forwarded = s.forwarded := by
  simp only [forwarded, undocumented, List.map_map, Function.comp_def,
    Parameter.ident_undocumented]
  rfl

theorem Selector.argumentLines_undocumented (s : Selector) :
    s.undocumented.argumentLines = s.argumentLines := by
  rw [argumentLines, undocumented, argumentLines]
  cases s.parameters with
  | nil => rfl
  | cons p ps =>
    simp only [List.map_cons, List.map_map, Function.comp_def,
      Parameter.argumentLine_undocumented]

theorem Selector.sameCode_undocumented (s : Selector) :
    SameCode s.lines s.undocumented.lines := by
  have hempty : s.undocumented.parameters.isEmpty = s.parameters.isEmpty := List.isEmpty_map
  rw [lines, lines, s.signature_undocumented, s.forwarded_undocumented,
    s.argumentLines_undocumented, hempty]
  exact (((s.sameCode_headLines.append_right _).append_right _).append
    (sameCode_deprecationLines _ _)).append_right _

theorem Composite.sameCode_modelLines (c : Composite) :
    SameCode c.modelLines c.undocumented.modelLines := by
  have haccessors : SameCode (c.accessors.flatMap Accessor.lines)
      (c.undocumented.accessors.flatMap Accessor.lines) := by
    rw [undocumented, List.flatMap_map]
    exact .flatMap Accessor.sameCode_undocumented
  -- The description is in front, and the accessors are in the last block.
  exact ((((((sameCode_docLines _ _).append_right _).append_right _).append_right _).append_right
    _).append_right _).append (.braced _ (.append_right _ (.append_left _ haccessors)))

theorem Composite.sameCode_builderLines (c : Composite) :
    SameCode c.builderLines c.undocumented.builderLines := by
  have hselectors : SameCode (spaced (c.selectors.map Selector.lines))
      (spaced (c.undocumented.selectors.map Selector.lines)) := by
    rw [undocumented, List.map_map]
    exact .spaced Selector.sameCode_undocumented
  exact .append_left _ (((hselectors.append_left _).append_right _).braced _)

theorem Composite.sameCode_undocumented (c : Composite) :
    SameCode c.lines c.undocumented.lines :=
  (((((c.sameCode_modelLines.append_left _).append_right _).append_right _).append
    c.sameCode_builderLines).append_right _)

theorem Variant.sameCode_undocumented (v : Variant) : SameCode v.lines v.undocumented.lines :=
  ((sameCode_docLines _ _).append (sameCode_deprecationLines _ _)).append_right _

theorem Enumeration.sameCode_undocumented (e : Enumeration) :
    SameCode e.lines e.undocumented.lines := by
  have hvariants : SameCode (e.variants.flatMap Variant.lines)
      (e.undocumented.variants.flatMap Variant.lines) := by
    rw [undocumented, List.flatMap_map]
    exact .flatMap Variant.sameCode_undocumented
  have harms : e.undocumented.variants.map Variant.armLine = e.variants.map Variant.armLine := by
    rw [undocumented, List.map_map]
    rfl
  have hempty : e.undocumented.variants.isEmpty = e.variants.isEmpty := List.isEmpty_map
  rw [lines, lines, harms, hempty]
  -- Everything below the declaration is written from identifiers and names.
  exact ((((((((sameCode_docLines _ _).append_left _).append_right _).append
    (hvariants.braced _)).append_right _).append_right _).append_right _).append_right _)

theorem StructMember.sameCode_undocumented (m : StructMember) :
    SameCode m.lines m.undocumented.lines :=
  (sameCode_docLines _ _).append_right _

theorem InputStruct.sameCode_undocumented (s : InputStruct) :
    SameCode s.lines s.undocumented.lines := by
  have hmembers : SameCode (s.members.flatMap StructMember.lines)
      (s.undocumented.members.flatMap StructMember.lines) := by
    rw [undocumented, List.flatMap_map]
    exact .flatMap StructMember.sameCode_undocumented
  have hsetters : s.undocumented.members.map StructMember.setterLine
      = s.members.map StructMember.setterLine := by
    rw [undocumented, List.map_map]
    rfl
  rw [lines, lines, hsetters]
  -- The setters of members say nothing of descriptions.
  exact (((((sameCode_docLines _ _).append_left _).append_right _).append
    (hmembers.braced _)).append_right _).append_right _

/-- **A declaration is written without documentation with the code it has with it.** -/
theorem Declaration.sameCode_undocumented (d : Declaration) :
    SameCode d.lines d.undocumented.lines := by
  cases d with
  | composite c => exact c.sameCode_undocumented
  | enumeration e => exact e.sameCode_undocumented
  | inputStruct s => exact s.sameCode_undocumented

/-! ## Files -/

theorem Aliases.sameCode_undocumented (a : Aliases) : SameCode a.lines a.undocumented.lines := by
  rw [lines, lines, undocumented, List.flatMap_map]
  exact .append_left _ (.flatMap fun scalar ↦ (SameCode.cons _ (sameCode_docLines _ _)).append_right _)

theorem Aliases.codeLines_content (header : String) (a : Aliases) :
    codeLines (a.content header) = codeLines (a.undocumented.content header) := by
  have hends (a : Aliases) : endsInNewline (printLines (headerLines header ++ a.lines)) = true :=
    endsInNewline_printLines (List.append_ne_nil_of_right_ne_nil _
      (List.append_ne_nil_of_left_ne_nil (by decide) _))
  refine codeLines_foldl_appendSource a.sources (hends a) (hends a.undocumented) ?_
  rw [codeLines_printLines, codeLines_printLines, a.sameCode_undocumented.append_left _ 0]

/-- The kind and the path of a unit, and its code. -/
def CodeUnit.code (u : CodeUnit) : UnitKind × Path × List (List Char) :=
  (u.kind, u.path, codeLines u.content)

theorem TypeUnit.code_toUnit (options : Options) (u : TypeUnit) :
    (u.toUnit options).code = (u.undocumented.toUnit options).code :=
  congrArg (fun lines ↦ (u.kind, modulePath u.module, lines))
    (u.declaration.sameCode_undocumented.codeLines_unitText options)

/-- **The units of a graph have the code that they have without documentation.** -/
theorem map_code_generate_undocumented (g : TypeGraph) (options : Options) :
    (generate g options).units.map CodeUnit.code
      = (generate g.undocumented options).units.map CodeUnit.code := by
  have hnames : Names.ofGraph g.undocumented options = Names.ofGraph g options :=
    Names.ofGraph_mapTypes NamedType.keepsHeads_undocumented g options
  have hroot (units : List TypeUnit) :
      rootUnit options (units.map TypeUnit.undocumented) = rootUnit options units := by
    rw [rootUnit, List.map_map]
    rfl
  have haliases (names : Names) :
      (aliasesUnit g options names).code = (aliasesUnit g.undocumented options names).code := by
    rw [aliasesUnit, aliasesUnit, CodeUnit.code, CodeUnit.code, Aliases.ofGraph_undocumented,
      Aliases.codeLines_content]
  simp only [generate, hnames, typeUnits_undocumented, hroot, List.map_cons, List.map_map, haliases]
  refine congrArg _ (congrArg _ (List.map_congr_left fun u _ ↦ ?_))
  exact u.code_toUnit options

/-- **Documentation does not reach code.**  Graphs that differ in descriptions and deprecations only
give the same units with the same kinds and paths, and their texts differ in lines of documentation
only.  Descriptions of arguments may differ where there is no line break in the name. -/
theorem map_code_eq_of_undocumented_eq {g g' : TypeGraph} (h : g.undocumented = g'.undocumented)
    (options : Options) :
    (generate g options).units.map CodeUnit.code
      = (generate g' options).units.map CodeUnit.code := by
  rw [map_code_generate_undocumented, h, ← map_code_generate_undocumented]

/-- A graph in which everything that can be documented is. -/
def documentedGraph (description? : Option String) (deprecation? : Option Deprecation) :
    TypeGraph where
  types := [
    ⟨"Query", description?, .object [⟨"user", description?, .named ⟨1⟩,
      [⟨"filter", description?, .named ⟨3⟩, some "{}"⟩, ⟨"id", description?, .named ⟨1⟩, none⟩],
      deprecation?⟩] []⟩,
    ⟨"ID", description?, .scalar none⟩,
    ⟨"Role", description?, .enum [⟨"ADMIN", description?, deprecation?⟩]⟩,
    ⟨"Filter", description?, .inputObject [⟨"role", description?, .named ⟨2⟩, none⟩]⟩,
    ⟨"Date", description?, .scalar none⟩]
  roots := ⟨some ⟨0⟩, none, none⟩

theorem map_code_eq_of_undocumented_eq_documented :
    (documentedGraph (some "\" */\npub fn main() \x7b\x7d\r\n\n///")
            (some ⟨some "\")]\n\x7d"⟩)).undocumented
        = (documentedGraph none none).undocumented
      ∧ (generate (documentedGraph (some "\" */\npub fn main() \x7b\x7d\r\n\n///")
            (some ⟨some "\")]\n\x7d"⟩)) .default).units.map CodeUnit.code
        = (generate (documentedGraph none none) .default).units.map CodeUnit.code :=
  ⟨by decide +kernel, map_code_eq_of_undocumented_eq (by decide +kernel) .default⟩

/-- A graph with an argument in whose name there is a line break. -/
def brokenNameGraph (description? : Option String) : TypeGraph where
  types := [
    ⟨"Query", none, .object [⟨"user", none, .named ⟨1⟩, [⟨"a\nb", description?, .named ⟨1⟩, none⟩],
      none⟩] []⟩,
    ⟨"ID", none, .scalar none⟩]
  roots := ⟨some ⟨0⟩, none, none⟩

/-- The object of that graph. -/
def brokenNameComposite (description? : Option String) : Composite where
  kind := .object
  typeName := "Query"
  description? := none
  ident := "Query"
  builder := "QuerySelection"
  variants? := none
  accessors := [⟨"user", "user", "user_at", .option (.named "ID"), false, none, none⟩]
  selectors := [⟨"user", "user", "user_keyed",
    [⟨"a\nb", "a\nb", .option (.named "ID"), false, description?, none⟩], none, none, none⟩]
  members := []
  roots := [.query]

/-- Behind the line break the comment goes on as code. -/
theorem otherCode_brokenNameComposite :
    OtherCode (brokenNameComposite none).lines (brokenNameComposite (some "text")).lines := by
  have hcomment : OtherCode [] [line ("/// - `a" ++ "\nb`: text")] := by
    intro depth
    have hopens : OpensDocumentation "/// - `a".toList :=
      opensDocumentation_comment " - `a".toList (by decide)
    have hrest : codeBehindBreak "\nb`: text".toList ≠ [] := by decide
    rw [hopens.codeAt_line]
    exact hrest.symm
  exact .append_right _ (.append_left _ (.append_left _ (.braced _ (.append_right _ (.append_left _
    (.append_left [blank] (.append_right _ hcomment)))))))

/-- **The description of an argument may get into code.**  The identifier of a parameter stands in a
comment before the description, and here it ends the comment. -/
theorem argument_description_in_code :
    (generate (brokenNameGraph none) .default).units.map CodeUnit.code
      ≠ (generate (brokenNameGraph (some "text")) .default).units.map CodeUnit.code := by
  have hunits : ∀ description? ∈ [none, some "text"],
      typeUnits (brokenNameGraph description?) .default
          (Names.ofGraph (brokenNameGraph description?) .default)
        = [⟨.object, "query", .composite (brokenNameComposite description?)⟩] := by
    rw [List.forall_mem_cons, List.forall_mem_singleton]
    exact ⟨by decide +kernel, by decide +kernel⟩
  intro h
  rw [generate, generate, hunits none (by decide), hunits (some "text") (by decide)] at h
  simp only [List.map_cons, List.map_nil, List.cons.injEq, and_true] at h
  obtain ⟨-, -, hunit⟩ := h
  exact otherCode_brokenNameComposite.codeLines_unitText .default (Prod.mk.inj (Prod.mk.inj hunit).2).2

end Code
end QueryBuilder
