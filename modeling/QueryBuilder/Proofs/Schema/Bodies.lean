import QueryBuilder.Proofs.Schema.Lookup
import QueryBuilder.Proofs.Schema.WellFormed
import QueryBuilder.Proofs.Success
import QueryBuilder.Schema.Resolve

/-!
# Resolving the body of a type

The second pass resolves references against a graph in which some bodies are filled and others are
still empty.  What it needs of that graph is `TypeGraph.Outlines`: the types have the declared
names, descriptions and kinds, in the declared order.  Under that condition every function of the
pass succeeds exactly on the members that are well-formed in the document, with exactly the result
that the document denotes; one lemma for each function says so, down to `resolveBody_eq_ok_iff`
and `resolveRoots_eq_ok_iff`.
-/

set_option autoImplicit false

namespace QueryBuilder
namespace Schema

/-! ## Kind tags -/

/-- The tag that says something. -/
def KindTag.text : KindTag → String
  | .named kind => kind.tag
  | .list => "LIST"
  | .nonNull => "NON_NULL"

theorem KindTag.ofText?_eq_some_iff {text : String} {tag : KindTag} :
    KindTag.ofText? text = some tag ↔ text = tag.text := by
  constructor
  · intro h
    unfold KindTag.ofText? at h
    split at h <;> cases h <;> rfl
  · rintro rfl
    cases tag with
    | named kind => cases kind <;> rfl
    | list => rfl
    | nonNull => rfl

theorem KindTag.parse_eq_ok_iff {text location : String} {tag : KindTag} :
    KindTag.parse text location = .ok tag ↔ text = tag.text := by
  rw [← KindTag.ofText?_eq_some_iff, KindTag.parse]
  cases KindTag.ofText? text with
  | none => simp
  | some tag' => simp

/-! ## Names of members -/

theorem firstDuplicate?_go_eq_none_iff {seen names : List String} :
    firstDuplicate?.go seen names = none ↔ names.Nodup ∧ ∀ name ∈ names, name ∉ seen := by
  induction names generalizing seen with
  | nil => simp [firstDuplicate?.go]
  | cons name rest ih =>
    rw [firstDuplicate?.go]
    split
    · rename_i hseen
      simp only [reduceCtorEq, false_iff, not_and]
      exact fun _ h ↦ h name List.mem_cons_self (List.contains_iff_mem.1 hseen)
    · rename_i hseen
      rw [ih, List.nodup_cons]
      simp only [List.mem_cons, not_or, forall_eq_or_imp, List.contains_iff_mem] at hseen ⊢
      constructor
      · rintro ⟨hnodup, hrest⟩
        exact ⟨⟨fun hmem ↦ (hrest name hmem).1 rfl, hnodup⟩, hseen, fun n hn ↦ (hrest n hn).2⟩
      · rintro ⟨⟨hnew, hnodup⟩, -, hrest⟩
        exact ⟨hnodup, fun n hn ↦ ⟨fun h ↦ hnew (h ▸ hn), hrest n hn⟩⟩

theorem ensureUnique_eq_ok_iff {owner : String} {names : List String} :
    ensureUnique owner names = .ok () ↔ names.Nodup := by
  have h : firstDuplicate?.go [] names = none ↔ names.Nodup ∧ ∀ name ∈ names, name ∉ [] :=
    firstDuplicate?_go_eq_none_iff
  rw [ensureUnique, firstDuplicate?]
  cases hdup : firstDuplicate?.go [] names with
  | none => simpa [hdup] using h
  | some name => simpa [hdup] using h

/-! ## References -/

/-- The types of the graph have the declared names, descriptions and kinds, in the declared order,
and no two of them have one name. -/
structure TypeGraph.Outlines (g : TypeGraph) (doc : Document) : Prop where
  heads : List.Forall₂ TypeDecl.Heads doc.types g.types
  names : (doc.types.map (·.name)).Nodup

section

variable {g : TypeGraph} {doc : Document} (hg : g.Outlines doc)
include hg

theorem TypeGraph.Outlines.names_eq : g.types.map (·.name) = doc.types.map (·.name) := by
  rw [← List.forall₂_eq_eq_eq, List.forall₂_map_left_iff, List.forall₂_map_right_iff]
  exact hg.heads.flip.imp fun _ _ h ↦ h.name

theorem TypeGraph.Outlines.declaresAt_iff {name : String} {kind : TypeKind} {id : TypeId} :
    doc.DeclaresAt name kind id ↔ ∃ t, g.get? id = some t ∧ t.name = name ∧ t.kind = kind := by
  obtain ⟨hlength, hheads⟩ := List.forall₂_iff_get.1 hg.heads
  constructor
  · rintro ⟨decl, hget, rfl, hkind⟩
    obtain ⟨hlt, rfl⟩ := List.getElem?_eq_some_iff.1 hget
    have h := hheads id.index hlt (hlength ▸ hlt)
    exact ⟨g.types[id.index], List.getElem?_eq_getElem (hlength ▸ hlt), h.name,
      TypeKind.tag_injective (h.kind.symm.trans hkind)⟩
  · rintro ⟨t, hget, rfl, rfl⟩
    obtain ⟨hlt, rfl⟩ := List.getElem?_eq_some_iff.1 hget
    have h := hheads id.index (hlength ▸ hlt) hlt
    exact ⟨doc.types[id.index], List.getElem?_eq_getElem (hlength ▸ hlt), h.name.symm, h.kind⟩

theorem resolveName_eq_ok_iff {referrer name : String} {kind : TypeKind} {id : TypeId} :
    resolveName g referrer name kind = .ok id ↔ doc.DeclaresAt name kind id := by
  have hlookup {id : TypeId} :
      g.lookup name = some id ↔ ∃ t, g.get? id = some t ∧ t.name = name :=
    TypeGraph.lookup_eq_some_iff (hg.names_eq ▸ hg.names)
  rw [hg.declaresAt_iff, resolveName]
  constructor
  · intro h
    split at h
    · cases h
    · rename_i id' hid'
      obtain ⟨t, hget, hname⟩ := hlookup.1 hid'
      have hkind : g.kindOf? id' = some t.kind := TypeGraph.kindOf?_eq_some_iff.2 ⟨t, hget, rfl⟩
      simp only [hkind] at h
      split_ifs at h with heq
      obtain rfl := Except.ok.inj h
      exact ⟨t, hget, hname, heq⟩
  · rintro ⟨t, hget, hname, hkind⟩
    have hkindOf : g.kindOf? id = some kind := TypeGraph.kindOf?_eq_some_iff.2 ⟨t, hget, hkind⟩
    simp only [hlookup.2 ⟨t, hget, hname⟩, hkindOf, if_true]

theorem resolveNamed_eq_ok_iff {referrer : String} {kind : TypeKind} {name? : Option String}
    {ref : TypeRef} :
    resolveNamed g referrer kind name? = .ok ref ↔
      ∃ name id, name? = some name ∧ doc.DeclaresAt name kind id ∧ ref = .named id := by
  cases name? with
  | none => simp [resolveNamed]
  | some name =>
    simp only [resolveNamed, map_eq_ok_iff, resolveName_eq_ok_iff hg, Option.some.injEq]
    constructor
    · rintro ⟨id, hid, rfl⟩
      exact ⟨name, id, rfl, hid, rfl⟩
    · rintro ⟨_, id, rfl, hid, rfl⟩
      exact ⟨id, hid, rfl⟩

omit hg in
theorem wrapNonNull_eq_ok_iff {referrer : String} {inner ref : TypeRef} :
    wrapNonNull referrer inner = .ok ref ↔ inner.isNonNull = false ∧ ref = .nonNull inner := by
  rw [wrapNonNull]
  cases inner.isNonNull with
  | true => simp
  | false => simp [eq_comm]

/-- A chain that starts with the tag of a named kind denotes what its name says. -/
theorem RefDecl.denotes_iff_of_kind {decl : RefDecl} {kind : TypeKind}
    (hkind : decl.kind = kind.tag) {referrer : String} {ref : TypeRef} :
    resolveNamed g referrer kind decl.name? = .ok ref ↔ decl.Denotes doc ref := by
  rw [resolveNamed_eq_ok_iff hg]
  constructor
  · rintro ⟨name, id, hname, hid, rfl⟩
    exact .named hkind hname hid
  · intro h
    cases h with
    | named hkind' hname hid =>
      obtain rfl := TypeKind.tag_injective (hkind'.symm.trans hkind)
      exact ⟨_, _, hname, hid, rfl⟩
    | list => exact absurd hkind.symm (TypeKind.tag_ne_list kind)
    | nonNull => exact absurd hkind.symm (TypeKind.tag_ne_nonNull kind)

/-- **References resolve exactly to what they denote.** -/
theorem resolveRef_eq_ok_iff {referrer : String} {decl : RefDecl} {ref : TypeRef} :
    resolveRef g referrer decl = .ok ref ↔ decl.Denotes doc ref := by
  induction decl generalizing ref with
  | plain kind name? =>
    rw [resolveRef, bind_eq_ok_iff]
    simp only [KindTag.parse_eq_ok_iff]
    constructor
    · rintro ⟨tag, rfl, h⟩
      cases tag with
      | named expected => exact (RefDecl.denotes_iff_of_kind hg rfl).1 h
      | list => cases h
      | nonNull => cases h
    · intro h
      cases h with
      | @named _ expected _ _ hkind hname hid =>
        exact ⟨.named expected, hkind, (RefDecl.denotes_iff_of_kind hg hkind).2
          (.named hkind hname hid)⟩
  | wrapping kind name? inner ih =>
    rw [resolveRef, bind_eq_ok_iff]
    simp only [KindTag.parse_eq_ok_iff]
    constructor
    · rintro ⟨tag, rfl, h⟩
      cases tag with
      | named expected => exact (RefDecl.denotes_iff_of_kind hg rfl).1 h
      | list =>
        obtain ⟨ref', href', rfl⟩ := map_eq_ok_iff.1 h
        exact .list (ih.1 href')
      | nonNull =>
        obtain ⟨ref', href', h⟩ := bind_eq_ok_iff.1 h
        obtain ⟨hinner, rfl⟩ := wrapNonNull_eq_ok_iff.1 h
        exact .nonNull hinner (ih.1 href')
    · intro h
      cases h with
      | @named _ expected _ _ hkind hname hid =>
        exact ⟨.named expected, hkind, (RefDecl.denotes_iff_of_kind hg hkind).2
          (.named hkind hname hid)⟩
      | list h => exact ⟨.list, rfl, map_eq_ok_iff.2 ⟨_, ih.2 h, rfl⟩⟩
      | nonNull hinner h =>
        exact ⟨.nonNull, rfl, bind_eq_ok_iff.2 ⟨_, ih.2 h, wrapNonNull_eq_ok_iff.2 ⟨hinner, rfl⟩⟩⟩

/-! ## Members -/

theorem resolveMember_eq_ok_iff {owner : String} {decl : RefDecl} {id : TypeId} :
    resolveMember g owner decl = .ok id ↔ decl.DenotesMember doc id := by
  rw [resolveMember, bind_eq_ok_iff]
  constructor
  · rintro ⟨ref, href, h⟩
    cases ref with
    | named id' =>
      obtain rfl := Except.ok.inj h
      exact (resolveRef_eq_ok_iff hg).1 href
    | list => cases h
    | nonNull => cases h
  · intro h
    exact ⟨.named id, (resolveRef_eq_ok_iff hg).2 h, rfl⟩

theorem resolveMembers_eq_ok_iff {owner : String} {decls? : Option (List RefDecl)}
    {ids : List TypeId} :
    resolveMembers g owner decls? = .ok ids ↔
      (∀ decl ∈ decls?.getD [], decl.WellFormedMember doc)
        ∧ List.Forall₂ (RefDecl.DenotesMember doc) (decls?.getD []) ids := by
  simp only [resolveMembers, mapM_eq_ok_iff, resolveMember_eq_ok_iff hg]
  refine ⟨fun h ↦ ⟨fun decl hmem ↦ ?_, h⟩, And.right⟩
  obtain ⟨id, hid⟩ := exists_of_forall₂ h hmem
  exact hid.wellFormedMember

theorem resolveInput_eq_ok_iff {owner : String} {decl : InputDecl} {value : InputValue} :
    resolveInput g owner decl = .ok value ↔ decl.Denotes doc value := by
  rw [resolveInput, bind_eq_ok_iff]
  constructor
  · rintro ⟨type, htype, h⟩
    obtain rfl := Except.ok.inj h
    exact ⟨rfl, rfl, (resolveRef_eq_ok_iff hg).1 htype, rfl⟩
  · rintro ⟨hname, hdescription, htype, hdefault⟩
    refine ⟨value.type, (resolveRef_eq_ok_iff hg).2 htype, ?_⟩
    rw [← hname, ← hdescription, ← hdefault]
    rfl

theorem resolveInputs_eq_ok_iff {owner : String} {decls? : Option (List InputDecl)}
    {values : List InputValue} :
    resolveInputs g owner decls? = .ok values ↔
      InputDecl.WellFormedAll doc (decls?.getD [])
        ∧ List.Forall₂ (InputDecl.Denotes doc) (decls?.getD []) values := by
  simp only [resolveInputs, bind_eq_ok_iff, mapM_eq_ok_iff, resolveInput_eq_ok_iff hg]
  constructor
  · rintro ⟨_, hnames, hvalues⟩
    refine ⟨⟨ensureUnique_eq_ok_iff.1 hnames, fun decl hmem ↦ ?_⟩, hvalues⟩
    obtain ⟨value, hvalue⟩ := exists_of_forall₂ hvalues hmem
    exact hvalue.type.wellFormed
  · rintro ⟨hdecls, hvalues⟩
    exact ⟨(), ensureUnique_eq_ok_iff.2 hdecls.names, hvalues⟩

theorem resolveField_eq_ok_iff {owner : String} {decl : FieldDecl} {field : Field} :
    resolveField g owner decl = .ok field ↔ decl.WellFormed doc ∧ decl.Denotes doc field := by
  simp only [resolveField, bind_eq_ok_iff, resolveInputs_eq_ok_iff hg, resolveRef_eq_ok_iff hg]
  constructor
  · rintro ⟨type, htype, arguments, ⟨hdecls, harguments⟩, h⟩
    obtain rfl := Except.ok.inj h
    exact ⟨⟨htype.wellFormed, hdecls⟩, rfl, rfl, htype, harguments, rfl⟩
  · rintro ⟨⟨-, hdecls⟩, hname, hdescription, htype, harguments, hdeprecation⟩
    refine ⟨field.type, htype, field.arguments, ⟨hdecls, harguments⟩, ?_⟩
    rw [← hname, ← hdescription, deprecationOf, ← hdeprecation]
    rfl

theorem resolveFields_eq_ok_iff {owner : String} {decls? : Option (List FieldDecl)}
    {fields : List Field} :
    resolveFields g owner decls? = .ok fields ↔
      FieldDecl.WellFormedAll doc (decls?.getD [])
        ∧ List.Forall₂ (FieldDecl.Denotes doc) (decls?.getD []) fields := by
  simp only [resolveFields, bind_eq_ok_iff, mapM_eq_ok_iff, resolveField_eq_ok_iff hg,
    List.forall₂_and_left]
  constructor
  · rintro ⟨_, hnames, hdecls, hfields⟩
    exact ⟨⟨ensureUnique_eq_ok_iff.1 hnames, hdecls⟩, hfields⟩
  · rintro ⟨hdecls, hfields⟩
    exact ⟨(), ensureUnique_eq_ok_iff.2 hdecls.names, hdecls.fields, hfields⟩

omit hg in
theorem EnumValueDecl.denotes_iff {decl : EnumValueDecl} {value : EnumValue} :
    decl.Denotes value ↔ ⟨decl.name, decl.description?,
      deprecationOf decl.isDeprecated decl.deprecationReason?⟩ = value := by
  constructor
  · rintro ⟨hname, hdescription, hdeprecation⟩
    rw [← hname, ← hdescription, deprecationOf, ← hdeprecation]
  · rintro rfl
    exact ⟨rfl, rfl, rfl⟩

omit hg in
theorem resolveEnumValues_eq_ok_iff {owner : String} {decls? : Option (List EnumValueDecl)}
    {values : List EnumValue} :
    resolveEnumValues owner decls? = .ok values ↔
      ((decls?.getD []).map (·.name)).Nodup
        ∧ List.Forall₂ EnumValueDecl.Denotes (decls?.getD []) values := by
  have hdenotes {decls : List EnumValueDecl} :
      List.Forall₂ EnumValueDecl.Denotes decls values ↔ decls.map (fun decl ↦
        ⟨decl.name, decl.description?,
          deprecationOf decl.isDeprecated decl.deprecationReason?⟩) = values := by
    rw [← List.forall₂_eq_eq_eq, List.forall₂_map_left_iff]
    exact ⟨fun h ↦ h.imp fun _ _ ↦ EnumValueDecl.denotes_iff.1,
      fun h ↦ h.imp fun _ _ ↦ EnumValueDecl.denotes_iff.2⟩
  simp only [resolveEnumValues, bind_eq_ok_iff, hdenotes]
  constructor
  · rintro ⟨_, hnames, h⟩
    exact ⟨ensureUnique_eq_ok_iff.1 hnames, Except.ok.inj h⟩
  · rintro ⟨hnames, rfl⟩
    exact ⟨(), ensureUnique_eq_ok_iff.2 hnames, rfl⟩

/-! ## Bodies

A body resolves exactly to what it denotes.  There is one lemma for each kind; the objects and the
interfaces share that of bodies with fields and members (`resolveParts_eq_ok_iff`). -/

theorem resolveParts_eq_ok_iff {owner : String} {fields? : Option (List FieldDecl)}
    {members? : Option (List RefDecl)} {make : List Field → List TypeId → TypeBody}
    {body : TypeBody} :
    (do
      let fields ← resolveFields g owner fields?
      return make fields (← resolveMembers g owner members?)) = .ok body ↔
      (FieldDecl.WellFormedAll doc (fields?.getD [])
          ∧ ∀ decl ∈ members?.getD [], decl.WellFormedMember doc)
        ∧ ∃ fields members, make fields members = body
          ∧ List.Forall₂ (FieldDecl.Denotes doc) (fields?.getD []) fields
          ∧ List.Forall₂ (RefDecl.DenotesMember doc) (members?.getD []) members := by
  simp only [bind_eq_ok_iff, resolveFields_eq_ok_iff hg, resolveMembers_eq_ok_iff hg]
  constructor
  · rintro ⟨fields, ⟨hdecls, hfields⟩, members, ⟨hmembers, hids⟩, h⟩
    exact ⟨⟨hdecls, hmembers⟩, fields, members, Except.ok.inj h, hfields, hids⟩
  · rintro ⟨⟨hdecls, hmembers⟩, fields, members, rfl, hfields, hids⟩
    exact ⟨fields, ⟨hdecls, hfields⟩, members, ⟨hmembers, hids⟩, rfl⟩

section

variable {decl : TypeDecl} {body : TypeBody}

theorem resolveBody_object_eq_ok_iff : resolveBody g decl .object = .ok body ↔
    decl.WellFormed doc .object ∧ body.kind = .object ∧ decl.DenotesBody doc body := by
  rw [resolveBody, resolveParts_eq_ok_iff hg]
  refine and_congr_right fun _ ↦ ⟨?_, fun ⟨hkind, hbody⟩ ↦ ?_⟩
  · rintro ⟨fields, interfaces, rfl, hbody⟩
    exact ⟨rfl, hbody⟩
  · cases body with
    | object fields interfaces => exact ⟨fields, interfaces, rfl, hbody⟩
    | _ => cases hkind

theorem resolveBody_interface_eq_ok_iff : resolveBody g decl .interface = .ok body ↔
    decl.WellFormed doc .interface ∧ body.kind = .interface ∧ decl.DenotesBody doc body := by
  rw [resolveBody, resolveParts_eq_ok_iff hg]
  refine and_congr_right fun _ ↦ ⟨?_, fun ⟨hkind, hbody⟩ ↦ ?_⟩
  · rintro ⟨fields, possibleTypes, rfl, hbody⟩
    exact ⟨rfl, hbody⟩
  · cases body with
    | interface fields possibleTypes => exact ⟨fields, possibleTypes, rfl, hbody⟩
    | _ => cases hkind

theorem resolveBody_union_eq_ok_iff : resolveBody g decl .union = .ok body ↔
    decl.WellFormed doc .union ∧ body.kind = .union ∧ decl.DenotesBody doc body := by
  rw [resolveBody, map_eq_ok_iff_of_iff fun _ ↦ resolveMembers_eq_ok_iff hg]
  refine and_congr_right fun _ ↦ ⟨?_, fun ⟨hkind, hbody⟩ ↦ ?_⟩
  · rintro ⟨possibleTypes, rfl, hbody⟩
    exact ⟨rfl, hbody⟩
  · cases body with
    | union possibleTypes => exact ⟨possibleTypes, rfl, hbody⟩
    | _ => cases hkind

omit hg in
theorem resolveBody_enum_eq_ok_iff : resolveBody g decl .enum = .ok body ↔
    decl.WellFormed doc .enum ∧ body.kind = .enum ∧ decl.DenotesBody doc body := by
  rw [resolveBody, map_eq_ok_iff_of_iff fun _ ↦ resolveEnumValues_eq_ok_iff]
  refine and_congr_right fun _ ↦ ⟨?_, fun ⟨hkind, hbody⟩ ↦ ?_⟩
  · rintro ⟨values, rfl, hbody⟩
    exact ⟨rfl, hbody⟩
  · cases body with
    | enum values => exact ⟨values, rfl, hbody⟩
    | _ => cases hkind

omit hg in
theorem resolveBody_scalar_eq_ok_iff : resolveBody g decl .scalar = .ok body ↔
    decl.WellFormed doc .scalar ∧ body.kind = .scalar ∧ decl.DenotesBody doc body := by
  rw [resolveBody]
  refine ⟨fun h ↦ ?_, fun ⟨_, hkind, hbody⟩ ↦ ?_⟩
  · obtain rfl := Except.ok.inj h
    exact ⟨trivial, rfl, rfl⟩
  · cases body with
    | scalar source? =>
      obtain rfl : source? = none := hbody
      rfl
    | _ => cases hkind

theorem resolveBody_inputObject_eq_ok_iff : resolveBody g decl .inputObject = .ok body ↔
    decl.WellFormed doc .inputObject ∧ body.kind = .inputObject ∧ decl.DenotesBody doc body := by
  rw [resolveBody, map_eq_ok_iff_of_iff fun _ ↦ resolveInputs_eq_ok_iff hg]
  refine and_congr_right fun _ ↦ ⟨?_, fun ⟨hkind, hbody⟩ ↦ ?_⟩
  · rintro ⟨inputFields, rfl, hbody⟩
    exact ⟨rfl, hbody⟩
  · cases body with
    | inputObject inputFields => exact ⟨inputFields, rfl, hbody⟩
    | _ => cases hkind

/-- **Bodies resolve exactly to what they denote**, and only the members of the kind decide. -/
theorem resolveBody_eq_ok_iff {kind : TypeKind} : resolveBody g decl kind = .ok body ↔
    decl.WellFormed doc kind ∧ body.kind = kind ∧ decl.DenotesBody doc body := by
  cases kind with
  | object => exact resolveBody_object_eq_ok_iff hg
  | interface => exact resolveBody_interface_eq_ok_iff hg
  | union => exact resolveBody_union_eq_ok_iff hg
  | enum => exact resolveBody_enum_eq_ok_iff
  | scalar => exact resolveBody_scalar_eq_ok_iff
  | inputObject => exact resolveBody_inputObject_eq_ok_iff hg

end

/-! ## Roots -/

theorem resolveRoot_eq_ok_iff {key : String} {name? : Option String} {id? : Option TypeId} :
    resolveRoot g key name? = .ok id? ↔ doc.DenotesRoot name? id? := by
  cases name? with
  | none =>
    rw [resolveRoot]
    constructor
    · intro h
      obtain rfl := Except.ok.inj h
      exact .none
    · intro h
      cases h
      rfl
  | some name =>
    simp only [resolveRoot, map_eq_ok_iff, resolveName_eq_ok_iff hg]
    constructor
    · rintro ⟨id, hid, rfl⟩
      exact .some hid
    · intro h
      cases h with
      | some hid => exact ⟨_, hid, rfl⟩

theorem resolveRoots_eq_ok_iff {roots : RootTypes} :
    resolveRoots g doc = .ok roots ↔ doc.DenotesRoot doc.query? roots.query?
      ∧ doc.DenotesRoot doc.mutation? roots.mutation?
      ∧ doc.DenotesRoot doc.subscription? roots.subscription? := by
  simp only [resolveRoots, bind_eq_ok_iff, resolveRoot_eq_ok_iff hg]
  constructor
  · rintro ⟨query?, hquery, mutation?, hmutation, subscription?, hsubscription, h⟩
    obtain rfl := Except.ok.inj h
    exact ⟨hquery, hmutation, hsubscription⟩
  · rintro ⟨hquery, hmutation, hsubscription⟩
    exact ⟨_, hquery, _, hmutation, _, hsubscription, rfl⟩

end

end Schema
end QueryBuilder
