import QueryBuilder.Code.Aliases
import QueryBuilder.Code.Enumeration
import QueryBuilder.Code.InputStruct

/-!
# Generated modules

The generated module is a directory: the root `mod.rs`, the aliases of scalars, and one unit for
each type, in the order of registration.

* `Declaration` — what the unit of a type declares.
* `TypeUnit`, `typeUnits` — the units of the types, as data.
* `generate` — the files.
-/

set_option autoImplicit false

namespace QueryBuilder
namespace Code

open Schema

/-- What the unit of a type declares. -/
inductive Declaration where
  | composite (c : Composite)
  | enumeration (e : Enumeration)
  | inputStruct (s : InputStruct)
  deriving Repr, DecidableEq

namespace Declaration

/-- The lines of a declaration. -/
def lines : Declaration → List Line
  | .composite c => c.lines
  | .enumeration e => e.lines
  | .inputStruct s => s.lines

/-- The declaration of a type; scalars have none. -/
def ofType? (g : TypeGraph) (options : Options) (names : Names) (id : TypeId) (t : NamedType) :
    Option Declaration :=
  match t.body with
  | .object .. | .interface .. | .union .. =>
    some (.composite (Composite.ofType g options names id t))
  | .enum values => some (.enumeration (Enumeration.ofType names id t values))
  | .inputObject fields => some (.inputStruct (InputStruct.ofType g options names id t fields))
  | .scalar _ => none

end Declaration

/-- The kind of the unit of a type; scalars have none. -/
def unitKind? : TypeKind → Option UnitKind
  | .object => some .object
  | .interface => some .interface
  | .union => some .union
  | .enum => some .enum
  | .inputObject => some .inputObject
  | .scalar => none

/-- The unit of a type. -/
structure TypeUnit where
  kind : UnitKind
  module : String
  declaration : Declaration
  deriving Repr, DecidableEq

/-- The unit of the type at an address, if it has a module. -/
def typeUnit? (g : TypeGraph) (options : Options) (names : Names) (entry : TypeId × NamedType) :
    Option TypeUnit := do
  let module ← (names.get? entry.1).bind (·.module?)
  let kind ← unitKind? entry.2.kind
  let declaration ← Declaration.ofType? g options names entry.1 entry.2
  return { kind, module, declaration }

/-- The units of the types of a graph, in the order of registration. -/
def typeUnits (g : TypeGraph) (options : Options) (names : Names) : List TypeUnit :=
  g.entries.filterMap (typeUnit? g options names)

/-! ## Files -/

/-- The text of a unit with some lines below its header. -/
def unitText (options : Options) (ls : List Line) : String :=
  printLines (headerLines options.header ++ ls)

/-- The lint settings of the module. -/
def lintLine : Line :=
  line ("#![allow(non_camel_case_types, non_snake_case, unused_imports, "
    ++ "dead_code, deprecated, clippy::all)]")

/-- The declaration of a module. -/
def declareLine (module : String) : Line :=
  line s!"pub mod {module};"

/-- The re-export of everything in a module. -/
def reexportLine (module : String) : Line :=
  line s!"pub use {module}::*;"

/-- The root of a module with some units, which declares and re-exports each of them. -/
def rootLines (modules : List String) : List Line :=
  [lintLine, blank] ++ modules.map declareLine ++ [blank] ++ modules.map reexportLine

/-- The module of the aliases unit. -/
def aliasesModule : String := "aliases"

/-- The file of a module. -/
def modulePath (module : String) : Path :=
  ⟨module ++ ".rs"⟩

/-- The file of a type unit. -/
def TypeUnit.toUnit (options : Options) (u : TypeUnit) : CodeUnit :=
  ⟨u.kind, modulePath u.module, unitText options u.declaration.lines⟩

/-- The root file. -/
def rootUnit (options : Options) (units : List TypeUnit) : CodeUnit :=
  ⟨.module, modulePath "mod", unitText options (rootLines (aliasesModule :: units.map (·.module)))⟩

/-- The file of the aliases. -/
def aliasesUnit (g : TypeGraph) (options : Options) (names : Names) : CodeUnit :=
  ⟨.aliases, modulePath aliasesModule, (Aliases.ofGraph g names).content options.header⟩

/-- The files that are generated for a graph. -/
def generate (g : TypeGraph) (options : Options) : Output :=
  let names := Names.ofGraph g options
  let units := typeUnits g options names
  ⟨rootUnit options units :: aliasesUnit g options names :: units.map (·.toUnit options)⟩

end Code
end QueryBuilder
