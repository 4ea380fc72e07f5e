import SnmpManager.Command.Config
import SnmpManager.Text.Utf8

/-!
# Command lines

The grammar of the tool's arguments: a command, its options, then its positional
arguments, which run to the end of the line.

- `CommandLine.parse` reads a line into an `Invocation` or says why it is
  rejected.
- `Invocation.config` checks what the options say.

An option takes its value from the rest of its word or from the next word. Among
the options of a command that talks to an agent, a word that begins with one
hyphen is a group of option letters only if every character after the hyphen is
an option letter of the command; otherwise it is the first positional argument,
or the value an option waits for. A word `--` ends the options.

A value is looked at when the next option or the first positional argument
comes, so of two faults the earlier one is reported.
-/

namespace SnmpManager

/-- Why a command line is not run. -/
inductive Rejection where
  /-- The help text was asked for. -/
  | helpAsked
  /-- The version was asked for. -/
  | versionAsked
  /-- There is no command. -/
  | nothingGiven
  | unknownCommand
  | unknownOption
  /-- An option without its value. -/
  | missingValue
  /-- A value that is none of those an option knows. -/
  | unknownValue
  /-- A value that does not denote a number in range. -/
  | malformedValue
  /-- A value for an option that takes none. -/
  | unwantedValue
  /-- An option given twice that may be given once. -/
  | repeatedOption
  deriving DecidableEq, Repr

/-- The options as given. -/
structure GivenOptions where
  community : Option String := none
  retries : Option UInt32 := none
  timeout : Option UInt64 := none
  version : Option String := none
  format : Option OutputFormat := none
  outputFlags : List String := []
  requestFlags : List String := []
  /-- How often debug output was asked for, at most 255 times. -/
  debug : Nat := 0
  deriving DecidableEq, Repr, Inhabited

/-- A command line that can be run. -/
structure Invocation where
  command : Command
  options : GivenOptions
  args : List String
  deriving DecidableEq, Repr

namespace CommandLine

/-- An option that takes a value. -/
inductive ValueOption where
  | community
  | retries
  | timeout
  | version
  | format
  | outputFlags
  | requestFlags
  deriving DecidableEq, Repr

/-- The option a letter stands for in a command. -/
def ValueOption.ofLetter? (command : Command) (letter : Char) : Option ValueOption :=
  match letter with
  | 'O' => some .outputFlags
  | _ =>
    if command = .mibTree then none
    else match letter with
      | 'c' => some .community
      | 'r' => some .retries
      | 't' => some .timeout
      | 'v' => some .version
      | 'C' => some .requestFlags
      | _ => none

/-- Whether a letter is an option of the command. -/
def isOptionLetter (command : Command) (letter : Char) : Bool :=
  letter == 'd' || letter == 'h' || (ValueOption.ofLetter? command letter).isSome

/-- Put a value into a place that may be filled once. -/
def fillOnce {α : Type} (place : Option α) (value? : Option α) (fault : Rejection) :
    Except Rejection (Option α) :=
  if place.isSome then .error .repeatedOption
  else match value? with
    | some value => .ok (some value)
    | none => .error fault

/-- A number of retries: a signed number in the range of 32 bits. -/
def retries? (text : String) : Option UInt32 :=
  let number := Decimal.signed? Decimal.half64 text.toList
  (number.filter fun n : Int => 0 ≤ n ∧ n < UInt32.size).map fun n => UInt32.ofNat n.toNat

/-- A number of seconds, at least one. -/
def seconds? (text : String) : Option UInt64 :=
  ((Decimal.unsigned? UInt64.size text.toList).filter (1 ≤ ·)).map UInt64.ofNat

/-- An output format by name. -/
def format? (text : String) : Option OutputFormat :=
  if text = "text" then some .text else if text = "json" then some .json else none

/-- Give an option its value. -/
def assign (given : GivenOptions) (option : ValueOption) (value : String) :
    Except Rejection GivenOptions :=
  match option with
  | .community => do
    return { given with community := ← fillOnce given.community (some value) .unknownValue }
  | .retries => do
    return { given with retries := ← fillOnce given.retries (retries? value) .malformedValue }
  | .timeout => do
    return { given with timeout := ← fillOnce given.timeout (seconds? value) .malformedValue }
  | .version => do
    return { given with version := ← fillOnce given.version (some value) .unknownValue }
  | .format => do
    return { given with format := ← fillOnce given.format (format? value) .unknownValue }
  | .outputFlags => .ok { given with outputFlags := given.outputFlags ++ [value] }
  | .requestFlags => .ok { given with requestFlags := given.requestFlags ++ [value] }

/-! ## Words -/

/-- The options read so far, and the last one if its value has not been looked at: without a
value it still waits for one. -/
structure Progress where
  given : GivenOptions := {}
  last : Option (ValueOption × Option String) := none

/-- Look at the value of the last option. -/
def Progress.settle (progress : Progress) : Except Rejection GivenOptions :=
  match progress.last with
  | none => .ok progress.given
  | some (_, none) => .error .missingValue
  | some (option, some value) => assign progress.given option value

/-- Whether the next word may be the value of the last option. -/
def Progress.waiting? (progress : Progress) : Option ValueOption :=
  match progress.last with
  | some (option, none) => some option
  | _ => none

/-- What stands after an option letter, without one equals sign. -/
def attached : List Char → String
  | '=' :: rest => String.ofList rest
  | rest => String.ofList rest

/-- Read a group of option letters. -/
def readLetters (command : Command) (progress : Progress) :
    List Char → Except Rejection Progress
  | [] => .ok progress
  | letter :: rest =>
    if letter = 'h' then do
      let _ ← progress.settle
      .error .helpAsked
    else if letter = 'd' then do
      let given ← progress.settle
      readLetters command ⟨{ given with debug := min 255 (given.debug + 1) }, none⟩ rest
    else match ValueOption.ofLetter? command letter with
      | none => .error .unknownOption
      | some option => do
        let given ← progress.settle
        if rest = [] then return ⟨given, some (option, none)⟩
        else return ⟨← assign given option (attached rest), none⟩

/-- What a word is to a command. -/
inductive Word where
  /-- The end of the options. -/
  | separator
  /-- A long option, with the value written after an equals sign. -/
  | long (name : List Char) (value : Option String)
  /-- A group of option letters. -/
  | letters (letters : List Char)
  | plain
  deriving DecidableEq, Repr

/-- What a word is, by its hyphens alone. -/
def Word.classify (word : String) : Word :=
  match word.toList with
  | '-' :: '-' :: [] => .separator
  | '-' :: '-' :: rest =>
    match Text.splitFirst? '=' rest with
    | some (name, value) => .long name (some (String.ofList value))
    | none => .long rest none
  | '-' :: letter :: rest => .letters (letter :: rest)
  | _ => .plain

/-- Whether a command has positional arguments. -/
def hasPositionals (command : Command) : Bool :=
  command != .mibTree

/-- The words from the first positional argument on. -/
def finish (command : Command) (progress : Progress) (args : List String) :
    Except Rejection Invocation :=
  if args ≠ [] ∧ !hasPositionals command then .error .unknownOption
  else do return ⟨command, ← progress.settle, args⟩

/-- Read the words after a command. -/
def readWords (command : Command) (progress : Progress) :
    List String → Except Rejection Invocation
  | [] => finish command progress []
  | word :: rest =>
    let positional : Except Rejection Invocation :=
      match progress.waiting? with
      | some option => readWords command ⟨progress.given, some (option, some word)⟩ rest
      | none => finish command progress (word :: rest)
    match Word.classify word with
    | .separator => finish command progress rest
    | .long name value =>
      if name = "help".toList then
        if value.isSome then .error .unwantedValue
        else do
          let _ ← progress.settle
          .error .helpAsked
      else if name = "format".toList ∧ hasPositionals command then do
        let given ← progress.settle
        match value with
        | some value => readWords command ⟨← assign given .format value, none⟩ rest
        | none => readWords command ⟨given, some (.format, none)⟩ rest
      else if hasPositionals command then positional
      else .error .unknownOption
    | .letters letters =>
      if hasPositionals command ∧ !letters.all (isOptionLetter command) then positional
      else do readWords command (← readLetters command progress letters) rest
    | .plain => positional

/-! ## Lines -/

/-- Whether a word calls a command or the help on commands. -/
def isCommandWord (word : String) : Bool :=
  (Command.ofName? word).isSome || word == "help"

/-- The words after `help`: at most one, and that a command. -/
def readHelp : List String → Rejection
  | [] => .helpAsked
  | [word] => if isCommandWord word then .helpAsked else .unknownCommand
  | _ => .unknownCommand

/-- An option before any command. -/
def readLeadingOption : Word → Rejection
  | .long name value =>
    if name = "help".toList then if value.isSome then .unwantedValue else .helpAsked
    else if name = "version".toList then if value.isSome then .unwantedValue else .versionAsked
    else .unknownOption
  | .letters ('h' :: _) => .helpAsked
  | .letters ('V' :: _) => .versionAsked
  | .letters _ => .unknownOption
  | .separator | .plain => .unknownCommand

/-- Read a line, without the name of the tool. -/
def parse : List String → Except Rejection Invocation
  | [] => .error .nothingGiven
  | "--" :: [] => .error .nothingGiven
  | "--" :: word :: _ =>
    .error (if isCommandWord word then .unknownOption else .unknownCommand)
  | word :: rest =>
    match Command.ofName? word with
    | some command => readWords command {} rest
    | none =>
      if word = "help" then .error (readHelp rest)
      else .error (readLeadingOption (Word.classify word))

end CommandLine

namespace Invocation

/-- The terms of the session that the options ask for. -/
def session (invocation : Invocation) : Except Error SessionSettings :=
  let given := invocation.options
  match Version.ofArgument? (given.version.getD "2c") with
  | none => .error (.usage .invalidVersion)
  | some version => .ok
    { version
      community := Utf8.encode (given.community.getD "public")
      timeout := .ofSeconds (given.timeout.getD 1).toNat
      retries := given.retries.getD 5 }

/-- Apply flag strings one after the other. -/
def applyAll {σ : Type} (apply : σ → List Char → Except UsageFault Unit × σ) :
    σ → List String → Except Error σ
  | settings, [] => .ok settings
  | settings, flags :: rest =>
    match apply settings flags.toList with
    | (.error fault, _) => .error (.usage fault)
    | (.ok (), settings) => applyAll apply settings rest

/-- The output options: flags first, then the format. -/
def output (invocation : Invocation) : Except Error OutputOptions := do
  let flags := invocation.options.outputFlags
  let options ← applyAll (OutputOptions.applyFlags invocation.command) {} flags
  return { options with format := invocation.options.format.getD .text }

/-- The configuration an invocation asks for: session, output flags, request flags, arguments. -/
def config (invocation : Invocation) : Except Error Config := do
  let session ← invocation.session
  let output ← invocation.output
  let settings ← applyAll (Settings.applyFlags invocation.command) { output }
    invocation.options.requestFlags
  Config.make invocation.command session settings invocation.args

end Invocation

end SnmpManager
