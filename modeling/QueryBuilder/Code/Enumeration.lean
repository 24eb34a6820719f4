import QueryBuilder.Code.Composite.Print

/-!
# What is generated for an enum

Every value of the enum becomes a variant.  The variant carries the name of the value twice, for
decoding and for encoding, so that the identifier may follow the convention of the generated
source.

* `Enumeration.ofType` — the variants and their identifiers.
* `Enumeration.lines` — the unit below its header.
-/

set_option autoImplicit false

namespace QueryBuilder
namespace Code

open Schema

/-- A variant of a generated enum. -/
structure Variant where
  ident : String
  /-- The name of the value in the schema. -/
  value : String
  description? : Option String
  deprecation? : Option Deprecation
  deriving Repr, DecidableEq

/-- What is generated for an enum. -/
structure Enumeration where
  description? : Option String
  ident : String
  variants : List Variant
  deriving Repr, DecidableEq

/-- The variant for a value. -/
def Variant.ofValue (value : EnumValue) (ident : String) : Variant :=
  ⟨ident, value.name, value.description?, value.deprecation?⟩

/-- The variants for some values. -/
def variantsOf (values : List EnumValue) : List Variant :=
  let (idents, _) := (Name.Scope.ofReserved .pascal []).claimAll (values.map (·.name))
  (values.zip idents).map fun (value, ident) => Variant.ofValue value ident

/-- What is generated for an enum with some values. -/
def Enumeration.ofType (names : Names) (id : TypeId) (t : NamedType) (values : List EnumValue) :
    Enumeration :=
  ⟨t.description?, names.ident id, variantsOf values⟩

/-- The line that gives a variant the name of its value. -/
def Variant.renameLine (v : Variant) : Line :=
  let value := Text.quoted v.value
  line s!"#[serde(rename = {value})]"

/-- The line that tells the name of the value of a variant. -/
def Variant.armLine (v : Variant) : Line :=
  let value := Text.quoted v.value
  line s!"Self::{v.ident} => {value},"

/-- The declaration of a variant. -/
def Variant.lines (v : Variant) : List Line :=
  docLines v.description? ++ deprecationLines v.deprecation?
    ++ [v.renameLine, line s!"{v.ident},"]

/-- The unit of an enum below its header. -/
def Enumeration.lines (e : Enumeration) : List Line :=
  let derived := "Debug, Clone, Copy, PartialEq, Eq, Hash"
  [line "use super::*;", blank]
    ++ docLines e.description?
    ++ [line
        s!"#[derive({derived}, {support}::serde::Deserialize, {support}::serde::Serialize)]",
      line s!"#[serde(crate = \"{support}::serde\")]"]
    ++ braced s!"pub enum {e.ident}" (e.variants.flatMap Variant.lines)
    ++ [blank]
    ++ braced s!"impl {e.ident}"
      (line "/// Returns the GraphQL name of this value."
        :: braced "pub const fn as_str(self) -> &'static str"
          (if e.variants.isEmpty then [line "match self \x7b\x7d"]
          else braced "match self" (e.variants.map Variant.armLine)))
    ++ [blank]
    ++ braced s!"impl {support}::IntoValue for {e.ident}"
      (braced s!"fn into_value(self) -> {support}::Value"
        [line s!"{support}::Value::Enum(self.as_str().to_string())"])

end Code
end QueryBuilder
