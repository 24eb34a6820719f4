import QueryBuilder.Code.Composite.Basic
import QueryBuilder.Code.Line

/-!
# The source of a composite type

The text of the unit of an object, interface or union: the response model with its methods, the
enum of possible types, the selection builder with its methods, and the functions that start
operations.

* `Composite.modelLines`, `Composite.variantLines` — what reads responses.
* `Selector.headLines`, `Selector.lines`, `Composite.builderLines` — what selects fields.
* `Composite.lines` — the whole unit below its header.
-/

set_option autoImplicit false

namespace QueryBuilder
namespace Code

/-- The library that generated code depends on. -/
def support : String := "::gryphin_runtime"

/-- Lists of lines one after the other, an empty line before each. -/
def spaced (blocks : List (List Line)) : List Line :=
  blocks.flatMap fun b => blank :: b

/-- A method with its signature and body. -/
def publicFn (signature : String) (body : List Line) : List Line :=
  braced s!"pub fn {signature}" body

/-! ## Response models -/

/-- The method of a response object that reads a field. -/
def getter (required : Bool) : String :=
  if required then "required" else "optional"

/-- The lines of the two methods that read a field. -/
def Accessor.lines (a : Accessor) : List Line :=
  let type := a.type.print
  let get := getter a.required
  let field := Text.quoted a.field
  blank :: docLines a.description? ++ deprecationLines a.deprecation?
    ++ publicFn s!"{a.method}(&self) -> Result<{type}, {support}::ResponseError>"
      [line s!"self.data.{get}({field})"]
    ++ [blank,
      line s!"/// Reads `{a.field}` under a response key returned by the selection builder."]
    ++ deprecationLines a.deprecation?
    ++ publicFn s!"{a.keyedMethod}(&self, key: &str) -> Result<{type}, {support}::ResponseError>"
      [line s!"self.data.{get}(key)"]

/-- The line that turns an object of a possible type into its variant. -/
def Member.armLine (variants : String) (m : Member) : Line :=
  let name := Text.quoted m.typeName
  line s!"{name} => Ok({variants}::{m.variant}({m.ident}::from(self.data.clone()))),"

/-- The method that tells which of its possible types an object has. -/
def Composite.variantMethod (c : Composite) (variants : String) : List Line :=
  let name := Text.quoted c.typeName
  [blank, line "/// Returns the concrete type of this object."]
    ++ publicFn s!"variant(&self) -> Result<{variants}, {support}::ResponseError>"
      (braced "match self.data.typename()?"
        (c.members.map (·.armLine variants)
          ++ block s!"other => Err({support}::ResponseError::UnknownTypename \x7b"
            [line s!"abstract_type: {name}.to_string(),", line "typename: other.to_string(),"]
            "\x7d),"))

/-- The response model of a type. -/
def Composite.modelLines (c : Composite) : List Line :=
  docLines c.description?
    ++ [line s!"#[derive(Debug, Clone, PartialEq, {support}::serde::Deserialize)]",
      line s!"#[serde(crate = \"{support}::serde\", transparent)]"]
    ++ braced s!"pub struct {c.ident}" [line s!"data: {support}::ResponseObject,"]
    ++ [blank]
    ++ braced s!"impl From<{support}::ResponseObject> for {c.ident}"
      (braced s!"fn from(data: {support}::ResponseObject) -> Self" [line "Self \x7b data \x7d"])
    ++ [blank]
    ++ braced s!"impl {c.ident}"
      (line "/// Returns the underlying response object."
        :: publicFn s!"response(&self) -> &{support}::ResponseObject" [line "&self.data"]
        ++ [blank, line "/// Returns `__typename`, which must have been selected."]
        ++ publicFn s!"typename(&self) -> Result<&str, {support}::ResponseError>"
          [line "self.data.typename()"]
        ++ c.accessors.flatMap Accessor.lines
        ++ (match c.variants? with
          | none => []
          | some variants => c.variantMethod variants))

/-- The enum of the possible types of a type. -/
def Composite.variantLines (c : Composite) : List Line :=
  match c.variants? with
  | none => []
  | some variants =>
    [blank, line s!"/// The possible concrete types of `{c.typeName}`.",
      line "#[derive(Debug, Clone, PartialEq)]"]
    ++ braced s!"pub enum {variants}"
      (c.members.map fun m => line s!"{m.variant}({m.ident}),")

/-! ## Selection builders -/

/-- The comment on a parameter: the first line of its description, and its default. -/
def Parameter.docLine (p : Parameter) : Line :=
  let description := match p.description? with
    | none => ""
    | some d => ": " ++ Text.trim ((Text.lines d).head?.getD "")
  let default := match p.default? with
    | none => ""
    | some d => s!" (defaults to `{d}`)"
  line (s!"/// - `{p.ident}`" ++ description ++ default)

/-- Whether a parameter has a comment. -/
def Parameter.isDocumented (p : Parameter) : Bool :=
  p.description?.isSome || p.default?.isSome

/-- The comments on the parameters of a method that may have a description itself. -/
def parameterDocLines (described : Bool) (ps : List Parameter) : List Line :=
  match ps.filter Parameter.isDocumented with
  | [] => []
  | documented => (if described then [line "///"] else []) ++ documented.map Parameter.docLine

/-- What stands before the first method that selects a field. -/
def Selector.headLines (s : Selector) : List Line :=
  docLines s.description? ++ parameterDocLines s.description?.isSome s.parameters
    ++ deprecationLines s.deprecation?

/-- The parameters of the methods that select a field. -/
def Selector.signature (s : Selector) : String :=
  let parameters := s.parameters.map fun p => s!"{p.ident}: {p.type.print}"
  let build := match s.nested? with
    | none => []
    | some builder => [s!"build: impl FnOnce(&mut {builder})"]
  ", ".intercalate ("&mut self" :: (parameters ++ build))

/-- What the first method passes on to the second. -/
def Selector.forwarded (s : Selector) : String :=
  ", ".intercalate (s.parameters.map (·.ident) ++ (if s.nested?.isSome then ["build"] else []))

/-- The line that makes an argument of a parameter. -/
def Parameter.argumentLine (p : Parameter) : Line :=
  let name := Text.quoted p.argument
  if p.required then line s!"Some({support}::Argument::new({name}, {p.ident})),"
  else line s!"{support}::Argument::optional({name}, {p.ident}),"

/-- The lines that collect the arguments of a field. -/
def Selector.argumentLines (s : Selector) : List Line :=
  match s.parameters with
  | [] => []
  | ps =>
    block "let arguments = [" (ps.map Parameter.argumentLine) "]"
      ++ [line ".into_iter()", line ".flatten()", line ".collect();"]

/-- The lines of the two methods that select a field. -/
def Selector.lines (s : Selector) : List Line :=
  let signature := s.signature
  let field := Text.quoted s.field
  let arguments := if s.parameters.isEmpty then "Vec::new()" else "arguments"
  let nested := if s.nested?.isSome then s!"Some({support}::nested(build))" else "None"
  s.headLines
    ++ publicFn s!"{s.method}({signature}) -> &mut Self"
      [line s!"self.{s.keyedMethod}({s.forwarded});", line "self"]
    ++ [blank, line s!"/// Selects `{s.field}` and returns the key its result answers under.",
      line "///", line "/// Selecting the field again with other arguments yields an alias key."]
    ++ deprecationLines s.deprecation?
    ++ publicFn s!"{s.keyedMethod}({signature}) -> ::std::string::String"
      (s.argumentLines ++ [line s!"self.selection.add_field({field}, {arguments}, {nested})"])

/-- The lines of the method that selects fields of a possible type. -/
def Member.lines (m : Member) : List Line :=
  let name := Text.quoted m.typeName
  line s!"/// Selects fields when the object is a `{m.typeName}`."
    :: publicFn s!"{m.method}(&mut self, build: impl FnOnce(&mut {m.builder})) -> &mut Self"
      [line s!"self.selection.add_fragment({name}, {support}::nested(build));", line "self"]

/-- The builder of an abstract type selects the type name from the start. -/
def Composite.defaultLines (c : Composite) : List Line :=
  if c.kind.isAbstract then
    braced s!"impl Default for {c.builder}"
      (braced "fn default() -> Self"
        (braced "Self" [line s!"selection: {support}::SelectionSet::with_typename(),"]))
      ++ [blank]
  else []

/-- The selection builder of a type. -/
def Composite.builderLines (c : Composite) : List Line :=
  [line s!"/// Selects fields of `{c.typeName}`.",
    line (if c.kind.isAbstract then "#[derive(Debug)]" else "#[derive(Debug, Default)]")]
    ++ braced s!"pub struct {c.builder}" [line s!"selection: {support}::SelectionSet,"]
    ++ [blank]
    ++ c.defaultLines
    ++ braced s!"impl {support}::SelectionBuilder for {c.builder}"
      (braced s!"fn into_selection(self) -> {support}::SelectionSet" [line "self.selection"])
    ++ [blank]
    ++ braced s!"impl {c.builder}"
      (line s!"/// Selects `{Query.typenameField}`."
        :: publicFn "typename(&mut self) -> &mut Self"
          [line "self.selection.add_typename();", line "self"]
        ++ spaced (c.selectors.map Selector.lines)
        ++ spaced (c.members.map Member.lines))

/-! ## Operations -/

/-- What an operation is called in a sentence. -/
def operationPhrase : Query.OperationKind → String
  | .query => "a query"
  | .mutation => "a mutation"
  | .subscription => "a subscription"

/-- The lines of the function that starts an operation on a type. -/
def Composite.rootLines (c : Composite) (operation : Query.OperationKind) : List Line :=
  let phrase := operationPhrase operation
  let keyword := operation.keyword
  line s!"/// Starts {phrase} on `{c.typeName}`."
    :: publicFn s!"{keyword}(build: impl FnOnce(&mut {c.builder})) -> {support}::Operation"
      [line s!"{support}::Operation::{keyword}({support}::nested(build))"]

/-- The unit of a composite type below its header. -/
def Composite.lines (c : Composite) : List Line :=
  [line "use super::*;", blank] ++ c.modelLines ++ c.variantLines ++ [blank] ++ c.builderLines
    ++ spaced (c.roots.map c.rootLines)

end Code
end QueryBuilder
