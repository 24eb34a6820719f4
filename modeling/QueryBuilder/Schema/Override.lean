import QueryBuilder.Schema.Graph

/-!
# Scalar overrides

A custom scalar is a string in generated code, unless an override gives it a source of its own.

* `Override.merge` — annotates the scalars of a graph with their overrides.  The last override of a
  scalar wins; what is no custom scalar is skipped, with a reason.
* `distinctFiles` — the files that overrides name.
* `effectiveFiles` — the files that are still in effect after the merge.
-/

set_option autoImplicit false

namespace QueryBuilder
namespace Schema

/-- The source that a scalar gets. -/
structure Override where
  scalar : String
  source : ScalarSource
  deriving Repr, DecidableEq

/-- Why an override was not applied. -/
inductive SkipReason where
  /-- No type has the name. -/
  | unknownType
  /-- The type is not a scalar. -/
  | notAScalar
  /-- The name is that of a built-in scalar, whose meaning is fixed. -/
  | builtinScalar
  deriving Repr, DecidableEq

/-- The wording of a reason. -/
def SkipReason.message : SkipReason → String
  | .unknownType => "no such type"
  | .notAScalar => "not a scalar"
  | .builtinScalar => "built-in scalar"

/-- What became of a list of overrides. -/
structure MergeReport where
  /-- The scalars that received an override, in the order in which they first did. -/
  applied : List String
  /-- The overrides that were skipped. -/
  skipped : List (String × SkipReason)
  deriving Repr, DecidableEq

namespace Override

/-- Why an override cannot be applied to a graph, `none` if it can. -/
def refusal? (g : TypeGraph) (o : Override) : Option SkipReason :=
  match g.byName? o.scalar with
  | none => some .unknownType
  | some t =>
    if builtinScalars.contains o.scalar then some .builtinScalar
    else if t.kind = .scalar then none
    else some .notAScalar

/-- Gives a scalar of a graph its source. -/
def apply (g : TypeGraph) (o : Override) : TypeGraph :=
  match g.lookup o.scalar with
  | some id => g.modify id fun t => { t with body := .scalar (some o.source) }
  | none => g

/-- Applies one override, or skips it. -/
def mergeOne (state : TypeGraph × MergeReport) (o : Override) : TypeGraph × MergeReport :=
  let (g, report) := state
  match o.refusal? g with
  | some reason => (g, { report with skipped := report.skipped ++ [(o.scalar, reason)] })
  | none =>
    let applied :=
      if report.applied.contains o.scalar then report.applied else report.applied ++ [o.scalar]
    (o.apply g, { report with applied })

/-- Annotates the scalars of a graph with their overrides. -/
def merge (overrides : List Override) (g : TypeGraph) : TypeGraph × MergeReport :=
  overrides.foldl mergeOne (g, ⟨[], []⟩)

end Override

/-- The file that a source is in. -/
def ScalarSource.file? : ScalarSource → Option Path
  | .file path => some path
  | .inline _ => none

/-- The files that overrides name, each once, in the order and spelling of their first
appearance. -/
def distinctFiles (overrides : List Override) : List Path :=
  Path.distinct (overrides.filterMap (·.source.file?))

/-- The files whose content the scalars of a graph have. -/
def TypeGraph.filesInEffect (g : TypeGraph) : List Path :=
  g.types.filterMap fun t => t.scalarSource?.bind (·.file?)

/-- The files of overrides that are in effect in a merged graph. -/
def effectiveFiles (overrides : List Override) (g : TypeGraph) : List Path :=
  (distinctFiles overrides).filter fun path => g.filesInEffect.any (·.same path)

end Schema
end QueryBuilder
