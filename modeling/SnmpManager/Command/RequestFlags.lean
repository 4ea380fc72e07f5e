import SnmpManager.Command.Output
import SnmpManager.Command.WalkOptions

/-!
# Request flags

The `-C` flags: single letters, letters with a number behind them, and `E`,
which takes the rest of the string. They set walk and bulk options and two of
the output options.

- `Settings.applyFlags` reads one flag string from left to right. What comes
  before a bad flag or number stays in effect; a rejected number changes nothing.
-/

namespace SnmpManager

/-- Where the end of a walk is written. -/
inductive EndOid where
  /-- In the flag string itself. -/
  | inline (text : String)
  /-- In the next argument of the command. -/
  | nextArgument
  deriving DecidableEq, Repr

/-- What flags choose about a request. -/
structure RequestOptions where
  walk : WalkOptions := {}
  bulk : BulkCounts := {}
  /-- The end of the walk as written, not yet resolved. -/
  endOid : Option EndOid := none
  deriving DecidableEq, Repr, Inhabited

/-- All that flags choose. -/
structure Settings where
  request : RequestOptions := {}
  output : OutputOptions := {}
  deriving DecidableEq, Repr, Inhabited

namespace Settings

/-- The effect of a letter that stands alone. -/
def setFlag (settings : Settings) (flag : Char) : Settings :=
  let { request, output } := settings
  match flag with
  | 'c' => ⟨{ request with walk := { request.walk with checkIncrease := false } }, output⟩
  | 'i' => ⟨{ request with walk := { request.walk with includeStart := true } }, output⟩
  | 'I' => ⟨{ request with walk := { request.walk with fallbackOnEmpty := false } }, output⟩
  | 'p' => ⟨request, { output with summary := true }⟩
  | 't' => ⟨request, { output with time := true }⟩
  | _ => settings

/-- The effect of a letter with a number. -/
def setCount (settings : Settings) (flag : Char) (n : UInt32) : Settings :=
  let { request, output } := settings
  if flag = 'n' then ⟨{ request with bulk := { request.bulk with nonRepeaters := n } }, output⟩
  else ⟨{ request with bulk := { request.bulk with maxRepetitions := n } }, output⟩

/-- The effect of `E` and what follows it. -/
def setEnd (settings : Settings) (rest : List Char) : Settings :=
  let place := if rest = [] then .nextArgument else .inline (String.ofList rest)
  { settings with request := { settings.request with endOid := some place } }

/-- The number behind a letter, which may have been written with a minus sign. -/
def count (digits : List Char) : Except CountFault UInt32 :=
  match digits with
  | [] => .error .missing
  | '-' :: _ => .error .negative
  | _ =>
    match Decimal.nat? digits with
    | some n => if n < UInt32.size then .ok (UInt32.ofNat n) else .error .tooLarge
    | none => .error .tooLarge

/-- A letter that waits for the end of its number, with the digits so far. -/
abbrev OpenCount := Option (Char × List Char)

/-- Whether a character still belongs to the number: digits do, and one minus sign in front. -/
def belongs (waiting : OpenCount) (c : Char) : Bool :=
  match waiting with
  | none => false
  | some (_, digits) => c.isDigit || (digits.isEmpty && c == '-')

/-- Take over the number that has ended, if there is one. -/
def close (settings : Settings) : OpenCount → Except UsageFault Settings
  | none => .ok settings
  | some (flag, digits) =>
    match count digits with
    | .error fault => .error (.invalidFlagArgument flag fault)
    | .ok n => .ok (settings.setCount flag n)

/-- Read flags from the state in which a number may be open. -/
def readFlags (command : Command) (settings : Settings) (waiting : OpenCount) :
    List Char → Except UsageFault Unit × Settings
  | [] =>
    match settings.close waiting with
    | .error fault => (.error fault, settings)
    | .ok settings => (.ok (), settings)
  | c :: rest =>
    if belongs waiting c then
      readFlags command settings (waiting.map fun (flag, digits) => (flag, digits ++ [c])) rest
    else match settings.close waiting with
      | .error fault => (.error fault, settings)
      | .ok settings =>
        if !command.acceptsRequestFlag c then (.error (.invalidFlag 'C' c), settings)
        else if c = 'E' then (.ok (), settings.setEnd rest)
        else if c = 'n' ∨ c = 'r' then readFlags command settings (some (c, [])) rest
        else readFlags command (settings.setFlag c) none rest

/-- Apply one flag string. -/
def applyFlags (command : Command) (settings : Settings) (flags : List Char) :
    Except UsageFault Unit × Settings :=
  readFlags command settings none flags

end Settings

end SnmpManager
