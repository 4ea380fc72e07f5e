import SnmpManager.Literal.Basic
import SnmpManager.VarBind

/-!
# Notifications

Building a TRAPv2 from what a user types: an uptime, an object that says which
notification it is, and triples of object, type and value. The first part that
is wrong fails the whole, so nothing is sent by halves.
-/

namespace SnmpManager

/-- How long the sender has been up. -/
inductive Uptime where
  /-- As long as the host at the moment of sending. -/
  | now
  /-- A number of hundredths of a second. -/
  | ticks (n : UInt64)
  deriving DecidableEq, Repr, Inhabited

namespace Uptime

/-- Read an uptime: nothing for now, otherwise a number from zero to the largest signed one. -/
def parse (text : String) : Except Error Uptime :=
  if text = "" then .ok .now
  else match (Decimal.signed? Decimal.half64 text.toList).filter (0 ≤ ·) with
    | some n => .ok (.ticks (UInt64.ofNat n.toNat))
    | none => .error (.literal "uptime" text .outOfRange)

/-- The ticks as sent, of which 32 bits remain. -/
def onWire (uptime : Uptime) (hostTicks : UInt64) : UInt32 :=
  match uptime with
  | .now => hostTicks.toUInt32
  | .ticks n => n.toUInt32

end Uptime

/-- One binding as typed. -/
structure TypedBinding where
  oid : String
  type : String
  value : String
  deriving DecidableEq, Repr

namespace TypedBinding

/-- Arguments three by three. -/
def triples? : List String → Option (List TypedBinding)
  | [] => some []
  | oid :: type :: value :: rest => (triples? rest).map (⟨oid, type, value⟩ :: ·)
  | _ => none

/-- Arguments three by three, or a usage error. -/
def triples (args : List String) : Except Error (List TypedBinding) :=
  match triples? args with
  | some bindings => .ok bindings
  | none => .error (.usage .trapArguments)

/-- The binding that was typed; the object is read before the value. -/
def binding (typed : TypedBinding) : Except Error VarBind := do
  let oid ← Mib.resolve typed.oid
  let value ← Literal.parse typed.oid typed.type typed.value
  return ⟨oid, value⟩

end TypedBinding

/-- A notification that is ready to be sent. -/
structure Notification where
  uptime : Uptime
  trapOid : Oid
  bindings : List VarBind
  deriving DecidableEq, Repr

/-- Put a notification together: its object first, then the bindings in order. -/
def Notification.assemble (uptime : Uptime) (trapOid : String) (typed : List TypedBinding) :
    Except Error Notification := do
  let trapOid ← Mib.resolve trapOid
  let bindings ← typed.mapM TypedBinding.binding
  return ⟨uptime, trapOid, bindings⟩

end SnmpManager
