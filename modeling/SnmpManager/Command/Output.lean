import SnmpManager.Command.Kind
import SnmpManager.Mib.Name

/-!
# Output options

How bindings are printed, and the `-O` flags that choose it. Flags take effect
from left to right; those before a bad one stay in effect.
-/

namespace SnmpManager

/-- How octet strings are printed. -/
inductive StringMode where
  /-- As text when printable, in hex otherwise. -/
  | auto
  | ascii
  | hex
  deriving DecidableEq, Repr, Inhabited

/-- The form of the output. -/
inductive OutputFormat where
  | text
  | json
  deriving DecidableEq, Repr, Inhabited

/-- How bindings are printed. -/
structure OutputOptions where
  lookup : LookupMode := .short
  strings : StringMode := .auto
  /-- An equals sign between object and value. -/
  printEquals : Bool := true
  /-- The value without its object. -/
  valuesOnly : Bool := false
  /-- The type in front of the value. -/
  hints : Bool := true
  /-- The number of bindings after a walk. -/
  summary : Bool := false
  /-- The time a walk took. -/
  time : Bool := false
  format : OutputFormat := .text
  deriving DecidableEq, Repr, Inhabited

namespace OutputOptions

/-- The effect of a flag that is accepted. -/
def setFlag (options : OutputOptions) (flag : Char) : OutputOptions :=
  match flag with
  | 'a' => { options with strings := .ascii }
  | 'x' => { options with strings := .hex }
  | 'f' => { options with lookup := .full }
  | 'n' => { options with lookup := .numeric }
  | 'S' => { options with lookup := .short }
  | 'q' => { options with printEquals := false, hints := false }
  | 'v' => { options with valuesOnly := true }
  | _ => { options with hints := false }

/-- Apply flags in order, up to the first that the command does not take. -/
def applyFlags (command : Command) (options : OutputOptions) :
    List Char → Except UsageFault Unit × OutputOptions
  | [] => (.ok (), options)
  | flag :: rest =>
    if command.acceptsOutputFlag flag then applyFlags command (options.setFlag flag) rest
    else (.error (.invalidFlag 'O' flag), options)

end OutputOptions

end SnmpManager
