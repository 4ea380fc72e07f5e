import SnmpManager.Error

/-!
# Terminals

Where a command prints: whole lines to the output, whole lines of remarks beside
it.

- `Terminal` is the place to print to, in any monad.
- `Transcript` is a terminal that only remembers, in the state monad. It may
  have limited room; a line that does not fit is refused whole.
-/

namespace SnmpManager

/-- Where a command prints. -/
structure Terminal (m : Type → Type) where
  /-- Print to the output. -/
  print : String → m (Except Error Unit)
  /-- Print a remark beside the output. -/
  remark : String → m (Except Error Unit)

/-- Use a terminal from another monad. -/
def Terminal.lift {m n : Type → Type} (run : {α : Type} → m α → n α) (terminal : Terminal m) :
    Terminal n where
  print := fun text => run (terminal.print text)
  remark := fun text => run (terminal.remark text)

/-- What was printed. -/
structure Transcript where
  output : String := ""
  remarks : String := ""
  /-- How many octets the output takes, if that is limited. -/
  room : Option Nat := none
  deriving DecidableEq, Repr, Inhabited

namespace Transcript

/-- Whether a text still fits. -/
def fits (transcript : Transcript) (text : String) : Bool :=
  match transcript.room with
  | none => true
  | some room => transcript.output.utf8ByteSize + text.utf8ByteSize ≤ room

/-- Print to the output. -/
def add (transcript : Transcript) (text : String) : Except Error Unit × Transcript :=
  if transcript.fits text then (.ok (), { transcript with output := transcript.output ++ text })
  else (.error (.io none .sinkFull), transcript)

/-- A terminal that only remembers. -/
def terminal : Terminal (StateM Transcript) where
  print := fun text => modifyGet fun transcript => transcript.add text
  remark := fun text => modifyGet fun transcript =>
    (.ok (), { transcript with remarks := transcript.remarks ++ text })

end Transcript

end SnmpManager
