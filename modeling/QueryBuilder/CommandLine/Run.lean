import QueryBuilder.CommandLine.Parse
import QueryBuilder.CommandLine.Report
import QueryBuilder.Project.Generate

/-!
# Running commands

What a command does, and what it says: the texts for the two output streams, and the failure that
ended it, if one did.
-/

set_option autoImplicit false

namespace QueryBuilder
namespace CommandLine

open Project

/-- The version of the program. -/
def versionText : String := "gryphin 0.1.0"

/-- What a command said, and how it ended. -/
structure Outcome where
  stdout : String
  stderr : String
  result : Except Failure Unit

/-- The warning about an override that was not applied. -/
def warningLine (color : Bool) (skipped : String × Schema.SkipReason) : String :=
  paint color .boldYellow "Warning:"
    ++ s!" scalar override `{skipped.1}` skipped: {skipped.2.message}\n"

/-- What a generation run says. -/
def summaryText (color verbose : Bool) (output : Path) (s : Summary) : String :=
  paint color .blue "Using configuration" ++ s!" {s.config.text}\n"
    ++ (if verbose then
        String.join (s.written.map fun p => "  " ++ paint color .dimmed "wrote" ++ s!" {p.text}\n")
      else "")
    ++ paint color .boldGreen "Generated" ++ s!" {s.written.length} unit(s) to {output.text}\n"

/-- Runs a command line. -/
def run {m : Type → Type} [Monad m] (fs : FileSystem m) (color : Bool) (i : Invocation) :
    m Outcome := do
  match i.command with
  | .generate root output config? =>
    match ← (generate fs root output config?).run with
    | .error e => return ⟨"", "", .error e⟩
    | .ok s =>
      return {
        stdout := if i.quiet then "" else summaryText color i.verbose output s
        stderr := String.join (s.skipped.map (warningLine color))
        result := .ok () }
  | .inspect schema =>
    match ← (loadSchema fs schema).run with
    | .error e => return ⟨"", "", .error e⟩
    | .ok g => return ⟨summary color g, "", .ok ()⟩
  | .version => return ⟨versionText ++ "\n", "", .ok ()⟩

end CommandLine
end QueryBuilder
