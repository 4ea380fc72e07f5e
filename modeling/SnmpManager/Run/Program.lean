import SnmpManager.Command.Line
import SnmpManager.Run.Basic

/-!
# The tool

From the words of a command line to an exit status.

- `Error.report` is what is said about a failed command: the tool's name, for
  transport errors also the command's, then the error, and after a usage error
  how the command is used. Where the program stopped, only the cause is given.
- `Program.run` reads the line, runs the command and reports.
-/

namespace SnmpManager

/-- What is said about a failed command. -/
def Error.report (command : Command) (lookup : LookupMode) (error : Error) : String :=
  let text := error.describe lookup
  match error.category with
  | .transport => s!"snmp: {command.name}: {text}\n"
  | .usage => s!"snmp: {text}\n{command.usage}\n"
  | .crash => s!"{text}\n"
  | _ => s!"snmp: {text}\n"

namespace Program

/-- The name and version of the tool. -/
def versionLine : String := "snmp 0.1.0\n"

/-- How all commands are used. -/
def help : String :=
  String.join (Command.all.map fun command => command.usage ++ "\n")

/-- How a program ends. -/
inductive ExitStatus where
  | success
  | failure
  /-- The command line was rejected. -/
  | rejected
  /-- The program stopped on the spot. -/
  | crashed
  deriving DecidableEq, Repr

/-- The exit status as a number. -/
def ExitStatus.code : ExitStatus → UInt32
  | .success => 0
  | .failure => 1
  | .rejected => 2
  | .crashed => 101

/-- Why a line is rejected, in words. -/
def rejectionText : Rejection → String
  | .helpAsked | .nothingGiven => ""
  | .versionAsked => ""
  | .unknownCommand => "unknown command"
  | .unknownOption => "unknown option or argument"
  | .missingValue => "an option needs a value"
  | .unknownValue => "an option has a value it does not know"
  | .malformedValue => "an option has a value that is not a number in range"
  | .unwantedValue => "an option has a value but takes none"
  | .repeatedOption => "an option is given twice"

variable {m : Type → Type} [Monad m]

/-- Answer a line that runs no command. -/
def reject (terminal : Terminal m) (rejection : Rejection) : m ExitStatus := do
  match rejection with
  | .helpAsked =>
    let _ ← terminal.print help
    return .success
  | .versionAsked =>
    let _ ← terminal.print versionLine
    return .success
  | .nothingGiven =>
    let _ ← terminal.remark help
    return .rejected
  | _ =>
    let _ ← terminal.remark s!"snmp: {rejectionText rejection}\n"
    return .rejected

/-- Report what came of a command. -/
def conclude (terminal : Terminal m) (command : Command) (lookup : LookupMode) :
    Except Error Completion → m ExitStatus
  | .ok _ => return .success
  | .error error => do
    let _ ← terminal.remark (error.report command lookup)
    return if error.category = .crash then .crashed else .failure

/-- Run a command line; a walk may make so many reports. -/
def run (host : Host m) (args : List String) (reports : Nat) : m ExitStatus := do
  match CommandLine.parse args with
  | .error rejection => reject host.terminal rejection
  | .ok invocation =>
    match invocation.config with
    | .error error => conclude host.terminal invocation.command .short (.error error)
    | .ok config =>
      let outcome ← (config.run host reports).run
      conclude host.terminal invocation.command config.output.lookup outcome

end Program

end SnmpManager
