/-!
# Keywords of the generated language

An identifier of the generated Rust source may be a keyword of that language.  Most keywords can be
written as raw identifiers (`r#type`); the few that cannot get an underscore at the end (`self_`).
-/

set_option autoImplicit false

namespace QueryBuilder
namespace Name

/-- The keywords that have a raw spelling. -/
def rawKeywords : List String := [
  "abstract", "as", "async", "await", "become", "box", "break", "const", "continue", "do", "dyn",
  "else", "enum", "extern", "false", "final", "fn", "for", "if", "impl", "in", "let", "loop",
  "macro", "match", "mod", "move", "mut", "override", "priv", "pub", "ref", "return", "static",
  "struct", "trait", "true", "try", "type", "typeof", "unsafe", "unsized", "use", "virtual",
  "where", "while", "yield"]

/-- The keywords that have no raw spelling. -/
def plainKeywords : List String := ["self", "Self", "super", "crate", "_"]

/-- The spelling of an identifier that is safe even for a keyword. -/
def escape (ident : String) : String :=
  if plainKeywords.contains ident then ident ++ "_"
  else if rawKeywords.contains ident then "r#" ++ ident
  else ident

end Name
end QueryBuilder
