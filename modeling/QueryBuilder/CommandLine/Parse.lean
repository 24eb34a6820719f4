import QueryBuilder.Path

/-!
# Command lines

What the words behind the program's name ask for.

* `Invocation` — a command and the settings that hold for all commands.
* `Switch`, `Level` — what a command accepts.  A command line has two levels: the program itself,
  and the command that it names.
* `Level.read` — reads the words of one level.  A value that is given as a word of its own is only
  checked when the next switch comes, or at the end, so an unknown word in between is found first.
* `parse` — reads a command line.
* `UsageError` — why a command line asks for nothing that can be run, asking for help included.
-/

set_option autoImplicit false

namespace QueryBuilder
namespace CommandLine

/-- Why a command line is not run. -/
inductive UsageError where
  | displayHelp
  | displayVersion
  | missingRequiredArgument
  | invalidSubcommand
  | unknownArgument
  /-- A value is missing or empty. -/
  | invalidValue
  /-- A switch is given twice. -/
  | argumentConflict
  /-- A switch that takes no value has one. -/
  | tooManyValues
  | missingSubcommand
  /-- There are no words at all. -/
  | displayHelpOnMissing
  deriving Repr, DecidableEq

/-- A setting that holds for all commands. -/
inductive Flag where
  | verbose
  | quiet
  deriving Repr, DecidableEq

/-- What a value is for. -/
inductive ValueName where
  | root
  | output
  | config
  | schema
  deriving Repr, DecidableEq

/-- What a switch does. -/
inductive Switch where
  | help
  | version
  | flag (f : Flag)
  | value (name : ValueName)
  deriving Repr, DecidableEq

/-- A command. -/
inductive Command where
  | generate (root output : Path) (config? : Option Path)
  | inspect (schema : Path)
  | version
  deriving Repr, DecidableEq

/-- What a command line asks for. -/
structure Invocation where
  verbose : Bool
  quiet : Bool
  command : Command
  deriving Repr, DecidableEq

/-! ## What is accepted -/

/-- What the words of one level may be. -/
structure Level where
  /-- The switches, each with its letter and its name. -/
  switches : List (Char × String × Switch)
  /-- The value that a word which is no switch is for, if any is. -/
  positional? : Option ValueName
  deriving Repr, DecidableEq

/-- The switches that every level accepts. -/
def commonSwitches : List (Char × String × Switch) := [
  ('v', "verbose", .flag .verbose),
  ('q', "quiet", .flag .quiet),
  ('h', "help", .help)]

/-- The program itself. -/
def programLevel : Level := ⟨commonSwitches ++ [('V', "version", .version)], none⟩

/-- The commands. -/
inductive CommandName where
  | generate
  | inspect
  | version
  deriving Repr, DecidableEq

/-- The command that a word names. -/
def CommandName.ofWord? : String → Option CommandName
  | "generate" | "gen" => some .generate
  | "inspect" => some .inspect
  | "version" => some .version
  | _ => none

/-- What a command accepts. -/
def CommandName.level : CommandName → Level
  | .generate =>
    ⟨commonSwitches ++ [
      ('r', "root", .value .root),
      ('o', "output", .value .output),
      ('c', "config", .value .config)], none⟩
  | .inspect => ⟨commonSwitches, some .schema⟩
  | .version => ⟨commonSwitches, none⟩

namespace Level

/-- The switch with a letter. -/
def byLetter? (level : Level) (letter : Char) : Option Switch :=
  (level.switches.find? fun s => s.1 == letter).map fun s => s.2.2

/-- The switch with a name. -/
def byName? (level : Level) (name : String) : Option Switch :=
  (level.switches.find? fun s => s.2.1 == name).map fun s => s.2.2

end Level

/-! ## Reading one level -/

/-- What is known of a level while its words are read. -/
structure Progress where
  flags : List Flag
  values : List (ValueName × String)
  /-- A value that has begun: its switch was read, and perhaps the word for it. -/
  pending? : Option (ValueName × Option String)
  /-- Whether the word that is no switch was read. -/
  positionalRead : Bool
  /-- Whether all further words are no switches. -/
  trailing : Bool
  deriving Repr, DecidableEq

namespace Progress

/-- Nothing is read yet. -/
def start : Progress := ⟨[], [], none, false, false⟩

/-- Stores a value. -/
def store (p : Progress) (name : ValueName) (text : String) : Except UsageError Progress :=
  if (p.values.lookup name).isSome then .error .argumentConflict
  else if text.isEmpty then .error .invalidValue
  else .ok { p with values := (name, text) :: p.values }

/-- Ends the value that has begun. -/
def settle (p : Progress) : Except UsageError Progress :=
  match p.pending? with
  | none => .ok p
  | some (_, none) => .error .invalidValue
  | some (name, some text) => { p with pending? := none }.store name text

/-- Reads a switch without a value. -/
def readSwitch (p : Progress) (switch : Switch) : Except UsageError Progress := do
  let p ← p.settle
  match switch with
  | .help => .error .displayHelp
  | .version => .error .displayVersion
  | .flag f => if p.flags.contains f then .error .argumentConflict else
    return { p with flags := f :: p.flags }
  | .value name => return { p with pending? := some (name, none) }

/-- Reads a switch with a value attached to it. -/
def readAttached (p : Progress) (name : ValueName) (text : String) :
    Except UsageError Progress := do
  (← p.settle).store name text

/-- Reads the letters behind a dash. -/
def readLetters (level : Level) (p : Progress) : List Char → Except UsageError Progress
  | [] => .ok p
  | letter :: rest =>
    match level.byLetter? letter with
    | none => .error .unknownArgument
    | some (.value name) =>
      match rest with
      | [] => p.readSwitch (.value name)
      | '=' :: text => p.readAttached name (String.ofList text)
      | text => p.readAttached name (String.ofList text)
    | some switch => do readLetters level (← p.readSwitch switch) rest

/-- Reads the name behind two dashes, and the value attached to it. -/
def readName (level : Level) (p : Progress) (cs : List Char) : Except UsageError Progress :=
  let name := String.ofList (cs.takeWhile (· != '='))
  match level.byName? name, cs.dropWhile (· != '=') with
  | none, _ => .error .unknownArgument
  | some (.value value), _ :: text => p.readAttached value (String.ofList text)
  | some _, _ :: _ => .error .tooManyValues
  | some switch, [] => p.readSwitch switch

/-- Reads a word that is no switch and no value of one. -/
def readPositional (level : Level) (p : Progress) (word : String) : Except UsageError Progress :=
  match level.positional? with
  | some name =>
    if p.positionalRead then .error .unknownArgument
    else do return { ← p.settle with pending? := some (name, some word), positionalRead := true }
  | none => .error .unknownArgument

/-- Reads a word. -/
def readWord (level : Level) (p : Progress) (word : String) : Except UsageError Progress :=
  if p.trailing then p.readPositional level word
  else
    match word.toList, p.pending? with
    | ['-', '-'], _ => .ok { p with trailing := true }
    | '-' :: '-' :: name, _ => p.readName level name
    | '-' :: letter :: letters, _ => p.readLetters level (letter :: letters)
    | _, some (name, none) => .ok { p with pending? := some (name, some word) }
    | _, _ => p.readPositional level word

/-- The value with a name. -/
def value? (p : Progress) (name : ValueName) : Option Path :=
  (p.values.lookup name).map Path.mk

/-- The value with a name, which must be given. -/
def required (p : Progress) (name : ValueName) : Except UsageError Path :=
  match p.value? name with
  | some path => .ok path
  | none => .error .missingRequiredArgument

/-- The command that the values of its level make. -/
def command (p : Progress) : CommandName → Except UsageError Command
  | .generate => do
    return .generate ((p.value? .root).getD ⟨"."⟩) (← p.required .output) (p.value? .config)
  | .inspect => do return .inspect (← p.required .schema)
  | .version => .ok .version

end Progress

/-- Reads the words of a level. -/
def Level.read (level : Level) (words : List String) : Except UsageError Progress := do
  (← words.foldlM (Progress.readWord level) .start).settle

/-! ## Reading a command line -/

/-- Reads the words behind `help`: the commands to explain.  No command has commands of its own, so
there can be one at most. -/
def parseHelp : List String → UsageError
  | [] => .displayHelp
  | [word] =>
    if word == "help" || (CommandName.ofWord? word).isSome then .displayHelp
    else .invalidSubcommand
  | _ => .invalidSubcommand

/-- Reads the words up to the name of a command, and then those of the command.  `seen` says
whether there was a word before. -/
def parseFrom (p : Progress) : List String → Except UsageError Invocation
  | [] => .error (if p.flags.isEmpty then .displayHelpOnMissing else .missingSubcommand)
  | word :: rest =>
    match CommandName.ofWord? word with
    | some name =>
      if p.trailing then .error .unknownArgument
      else do
        let q ← name.level.read rest
        let isSet (f : Flag) := p.flags.contains f || q.flags.contains f
        return ⟨isSet .verbose, isSet .quiet, ← q.command name⟩
    | none =>
      if word == "help" then
        .error (if p.trailing then .unknownArgument else parseHelp rest)
      else
        let isSwitch := !p.trailing && word.toList.head? == some '-' && word != "-"
        if isSwitch then do parseFrom (← p.readWord programLevel word) rest
        else .error .invalidSubcommand

/-- Reads the words behind the program's name. -/
def parse (words : List String) : Except UsageError Invocation :=
  parseFrom .start words

end CommandLine
end QueryBuilder
