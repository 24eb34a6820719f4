import QueryBuilder.Text.Hex
import QueryBuilder.Text.InvisibleTable

/-!
# Quoted literals

A text between double quotes, as a string literal of the generated source spells it and as
messages show it.  A quote, a backslash, the zero character, tab, line feed and carriage return
have a short escape; a character that does not print by itself is spelled by number,
`\u` and the number in braces; everything else stands for itself.
-/

set_option autoImplicit false

namespace QueryBuilder
namespace Text

/-- Whether a character has no printed form of its own: a control, a format character, a blank
other than the space, an unassigned or private character, a filler that shows nothing, or a mark
that extends the character before it. -/
def isInvisible (c : Char) : Bool :=
  decide (c.toNat < 32) || (decide (127 ≤ c.toNat) && Run.anyContains invisibleRuns c.toNat)

/-- The spelling of one character inside a quoted literal. -/
def quotedChar (c : Char) : List Char :=
  if c = '"' then ['\\', '"']
  else if c = '\\' then ['\\', '\\']
  else if c = '\n' then ['\\', 'n']
  else if c = '\r' then ['\\', 'r']
  else if c = '\t' then ['\\', 't']
  else if c = Char.ofNat 0 then ['\\', '0']
  else if isInvisible c then '\\' :: 'u' :: '{' :: (hexDigits c.toNat ++ ['}'])
  else [c]

/-- The quoted literal of a text. -/
def quoted (s : String) : String :=
  String.ofList ('"' :: (s.toList.flatMap quotedChar ++ ['"']))

end Text
end QueryBuilder
