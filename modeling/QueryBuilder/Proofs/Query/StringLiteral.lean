import Mathlib.Tactic.SplitIfs
import QueryBuilder.Query.Value

/-!
# Reading string literals

A string literal starts and ends with a quote.  Between the two, a backslash starts an escape, and
every character that is not a control character stands for itself.

* `readString` — reads a literal at the start of a text, and gives the string and the rest.
* `readString_encodeString` — the literal of a string is read back, whatever follows it.
* `encodeString_append_inj` — so a text starts with at most one literal.
* `stringLiteral_reads_back` — both on texts, and what a literal cannot hold: a control character, or
  the quotes that open another kind of literal.
-/

set_option autoImplicit false

namespace QueryBuilder
namespace Query

/-! ## The reader -/

/-- The character that a letter behind a backslash stands for. -/
def shortEscape? : Char → Option Char
  | '"' => some '"'
  | '\\' => some '\\'
  | 'n' => some '\n'
  | 'r' => some '\r'
  | 't' => some '\t'
  | _ => none

/-- The character that four digits behind `\u` stand for. -/
def numericEscape? (digits : List Char) : Option Char :=
  match Text.hexNumber? digits with
  | some n => if n.isValidChar then some (Char.ofNat n) else none
  | none => none

/-- Puts a character in front of what has been read. -/
def putFirst (char? : Option Char) (read? : Option (List Char × List Char)) :
    Option (List Char × List Char) :=
  match char?, read? with
  | some char, some (chars, rest) => some (char :: chars, rest)
  | _, _ => none

/-- Reads up to the closing quote. -/
def readCharacters : List Char → Option (List Char × List Char)
  | [] => none
  | '"' :: rest => some ([], rest)
  | '\\' :: 'u' :: a :: b :: c :: d :: rest =>
    putFirst (numericEscape? [a, b, c, d]) (readCharacters rest)
  | '\\' :: letter :: rest => putFirst (shortEscape? letter) (readCharacters rest)
  | char :: rest => putFirst (if isControl char then none else some char) (readCharacters rest)

/-- Reads a string literal. -/
def readString : List Char → Option (List Char × List Char)
  | '"' :: rest => readCharacters rest
  | _ => none

/-! ## Numbers with four digits -/

theorem hexValue?_hexDigitUpper : ∀ d < 16, Text.hexValue? (Text.hexDigitUpper d) = some d := by
  decide

theorem hexNumber?_hexFour {n : Nat} (h : n < 65536) :
    Text.hexNumber? (Text.hexFour n) = some n := by
  have hdigit : ∀ m, Text.hexValue? (Text.hexDigitUpper (m % 16)) = some (m % 16) :=
    fun m ↦ hexValue?_hexDigitUpper _ (Nat.mod_lt m (by decide))
  simp only [Text.hexNumber?, Text.hexFour, List.foldlM_cons, List.foldlM_nil, hdigit,
    Option.map_some, Option.bind_eq_bind, Option.bind_some, Option.pure_def, Option.some.injEq]
  omega

theorem numericEscape?_hexFour {c : Char} (h : c.toNat < 65536) :
    numericEscape? (Text.hexFour c.toNat) = some c := by
  have hvalid : c.toNat.isValidChar := c.valid
  rw [numericEscape?, hexNumber?_hexFour h]
  simp only [if_pos hvalid, Char.ofNat_toNat]

/-! ## Reading back -/

theorem toNat_lt_of_isControl {c : Char} (h : isControl c = true) : c.toNat < 160 := by
  rw [isControl, Bool.or_eq_true, Bool.and_eq_true, decide_eq_true_eq, decide_eq_true_eq,
    decide_eq_true_eq] at h
  omega

/-- The spelling of a character is read back. -/
theorem readCharacters_encodeChar (c : Char) (rest : List Char) :
    readCharacters (encodeChar c ++ rest) = putFirst (some c) (readCharacters rest) := by
  rw [encodeChar]
  split_ifs with hquote hbackslash hfeed hreturn htab hcontrol
  · simp [readCharacters, shortEscape?, hquote]
  · simp [readCharacters, shortEscape?, hbackslash]
  · simp [readCharacters, shortEscape?, hfeed]
  · simp [readCharacters, shortEscape?, hreturn]
  · simp [readCharacters, shortEscape?, htab]
  · have hescape : numericEscape? (Text.hexFour c.toNat) = some c :=
      numericEscape?_hexFour (Nat.lt_trans (toNat_lt_of_isControl hcontrol) (by decide))
    rw [Text.hexFour] at hescape ⊢
    simp only [List.cons_append, List.nil_append, readCharacters, hescape]
  · -- The last branch of the reader is left once the character is no quote and no backslash.
    simp [readCharacters, hbackslash, hcontrol]

/-- **The literal of a string is read back, whatever follows it.** -/
theorem readString_encodeString (cs rest : List Char) :
    readString (encodeString cs ++ rest) = some (cs, rest) := by
  rw [encodeString, List.cons_append, readString, List.append_assoc]
  induction cs with
  | nil => rfl
  | cons c cs ih =>
    rw [List.flatMap_cons, List.append_assoc, readCharacters_encodeChar, ih, putFirst]

/-- A text starts with at most one literal. -/
theorem encodeString_append_inj {cs ds rest rest' : List Char}
    (h : encodeString cs ++ rest = encodeString ds ++ rest') : cs = ds ∧ rest = rest' := by
  have hread := congrArg readString h
  rw [readString_encodeString, readString_encodeString] at hread
  exact Prod.mk.inj (Option.some.inj hread)

/-! ## The characters of a literal -/

theorem isControl_hexDigitUpper : ∀ d < 16, isControl (Text.hexDigitUpper d) = false := by
  decide

/-- A number is spelled without control characters. -/
theorem isControl_of_mem_hexFour {n : Nat} {c : Char} (h : c ∈ Text.hexFour n) :
    isControl c = false := by
  have hdigit (m : Nat) : isControl (Text.hexDigitUpper (m % 16)) = false :=
    isControl_hexDigitUpper _ (Nat.mod_lt m (by decide))
  rw [Text.hexFour] at h
  simp only [List.mem_cons, List.not_mem_nil, or_false] at h
  rcases h with rfl | rfl | rfl | rfl <;> exact hdigit _

/-- No character is spelled with a control character. -/
theorem isControl_of_mem_encodeChar {c d : Char} (h : d ∈ encodeChar c) : isControl d = false := by
  have hescape {letter : Char} (hletter : isControl letter = false) (h : d ∈ ['\\', letter]) :
      isControl d = false := by
    rcases List.mem_cons.1 h with rfl | h
    · decide
    · exact List.mem_singleton.1 h ▸ hletter
  rw [encodeChar] at h
  split_ifs at h with hquote hbackslash hfeed hreturn htab hcontrol
  · exact hescape (by decide) h
  · exact hescape (by decide) h
  · exact hescape (by decide) h
  · exact hescape (by decide) h
  · exact hescape (by decide) h
  · rcases List.mem_cons.1 h with rfl | h
    · decide
    · rcases List.mem_cons.1 h with rfl | h
      · decide
      · exact isControl_of_mem_hexFour h
  · rw [List.mem_singleton.1 h]
    exact Bool.not_eq_true _ ▸ hcontrol

theorem isControl_of_mem_encodeString {cs : List Char} {d : Char} (h : d ∈ encodeString cs) :
    isControl d = false := by
  simp only [encodeString, List.mem_cons, List.mem_append, List.mem_flatMap, List.not_mem_nil,
    or_false] at h
  rcases h with rfl | ⟨c, -, hd⟩ | rfl
  · decide
  · exact isControl_of_mem_encodeChar hd
  · decide

/-- A character stands for itself, unless it is a quote, or is spelled by an escape. -/
theorem encodeChar_cases (c : Char) :
    encodeChar c = [c] ∧ c ≠ '"' ∨ ∃ rest, encodeChar c = '\\' :: rest := by
  rw [encodeChar]
  split_ifs with hquote
  any_goals exact .inr ⟨_, rfl⟩
  exact .inl ⟨rfl, hquote⟩

/-- Three quotes open another kind of literal.  They stand there only if the string is empty and a
quote follows. -/
theorem threeQuotes_prefix_iff (cs rest : List Char) :
    ['"', '"', '"'] <+: encodeString cs ++ rest ↔ cs = [] ∧ ['"'] <+: rest := by
  cases cs with
  | nil => simp [encodeString]
  | cons c cs =>
    rcases encodeChar_cases c with ⟨hchar, hquote⟩ | ⟨more, hchar⟩
    · simp [encodeString, hchar, Ne.symm hquote]
    · simp [encodeString, hchar]

/-- **A string is read back from its literal, and nothing of it is outside.**  Whatever text follows
the literal, reading takes the literal and no more, and gives the string.  No control character is
in the literal, so it stands on one line.  With what follows, it starts as a block string does, with
three quotes, only if the string is empty and a quote follows. -/
theorem stringLiteral_reads_back (s rest : String) :
    readString (stringLiteral s ++ rest).toList = some (s.toList, rest.toList)
      ∧ (∀ c ∈ (stringLiteral s).toList, isControl c = false)
      ∧ (['"', '"', '"'] <+: (stringLiteral s ++ rest).toList ↔ s = "" ∧ ['"'] <+: rest.toList) := by
  rw [String.toList_append, stringLiteral, String.toList_ofList]
  refine ⟨readString_encodeString _ _, fun c ↦ isControl_of_mem_encodeString, ?_⟩
  rw [threeQuotes_prefix_iff, String.toList_eq_nil_iff]

end Query
end QueryBuilder
