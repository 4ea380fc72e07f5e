import SnmpManager.Message

/-!
# Requests

One exchange with an agent: what is asked and about which objects.

- `Request.check` refuses what a version cannot carry, before anything is sent.
- `Request.pdu` is the unit for one attempt; each attempt has its own id.
-/

namespace SnmpManager

/-- One exchange with an agent. -/
inductive Request where
  | get (oids : List Oid)
  | getNext (oids : List Oid)
  | getBulk (oids : List Oid) (nonRepeaters maxRepetitions : UInt32)
  /-- A notification, which is not answered. -/
  | trap (uptime : UInt32) (trapOid : Oid) (bindings : List VarBind)
  deriving DecidableEq, Repr

namespace Request

/-- The operation by name. -/
def name : Request → String
  | .get _ => "get"
  | .getNext _ => "getnext"
  | .getBulk .. => "getbulk"
  | .trap .. => "trap"

/-- The objects an error index counts, in order. -/
def requested : Request → List Oid
  | .get oids | .getNext oids | .getBulk oids _ _ => oids
  | .trap .. => []

/-- Whether the agent answers. -/
def isAnswered : Request → Bool
  | .trap .. => false
  | _ => true

/-- What a version cannot carry, and counts that do not fit the objects. -/
def check (version : Version) : Request → Except UsageFault Unit
  | .getBulk oids nonRepeaters _ =>
    if !version.carriesV2 then .error .v2PduOnV1
    else if nonRepeaters.toNat > oids.length then .error (.tooFewObjects nonRepeaters oids.length)
    else .ok ()
  | .trap .. => if version.carriesV2 then .ok () else .error .trapOnV1
  | _ => .ok ()

/-- A count as a message holds it; larger ones stop at the largest. -/
def countField (n : UInt32) : Int32 :=
  Int32.ofNat (min n.toNat 0x7FFFFFFF)

theorem toInt_countField (n : UInt32) : (countField n).toInt = min n.toNat 0x7FFFFFFF := by
  rw [countField, Int32.toInt_ofNat_of_lt (by omega)]

/-- The unit for an attempt with the given id. -/
def pdu (requestId : Int32) : Request → Pdu
  | .get oids => .asking .getRequest requestId oids
  | .getNext oids => .asking .getNextRequest requestId oids
  | .getBulk oids nonRepeaters maxRepetitions =>
    { Pdu.asking .getBulkRequest requestId oids with
      errorStatus := countField nonRepeaters
      errorIndex := countField maxRepetitions }
  | .trap uptime trapOid bindings => .notification requestId uptime trapOid bindings

end Request

end SnmpManager
