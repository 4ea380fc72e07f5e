import SnmpManager.Request

/-!
# Responses

What an agent's octets mean to a session that waits for the answer to one
attempt.

- `Expected` is the attempt.
- `interpret` sorts octets into the answer, a stale answer to some other
  attempt, or an error. A wrong version is noticed before a wrong kind of unit,
  and that before a wrong id.
- `Response.check` turns an error status into an error that names the requested
  object at the error index.
-/

namespace SnmpManager

/-- What a session waits for. -/
structure Expected where
  version : Version
  requestId : Int32
  requested : List Oid
  source : Option SocketAddress
  deriving DecidableEq, Repr

/-- An agent's answer. -/
structure Response where
  status : ErrorStatus
  /-- Counts the requested objects from one; zero points at none. -/
  index : UInt32
  requested : List Oid
  bindings : List VarBind
  source : Option SocketAddress
  deriving DecidableEq, Repr

namespace Response

/-- Whether the agent reports an error. -/
def isError (response : Response) : Bool :=
  response.status != .noError

/-- The requested object at the error index. -/
def offending? (response : Response) : Option Oid :=
  if response.index = 0 then none else response.requested[response.index.toNat - 1]?

/-- The error the agent reports. -/
def error? (response : Response) : Option Error :=
  if response.isError then
    some (.snmp response.source response.status response.index response.offending?)
  else none

/-- The bindings, unless the agent reports an error. -/
def check (response : Response) : Except Error (List VarBind) :=
  match response.error? with
  | some e => .error e
  | none => .ok response.bindings

end Response

/-- What octets are to a session that waits. -/
inductive Interpretation where
  | answer (response : Response)
  /-- The answer to another attempt. -/
  | stale (requestId : Int32)
  deriving DecidableEq, Repr

/-- An error index; a negative one points at nothing. -/
def indexField (n : Int32) : UInt32 :=
  UInt32.ofNat n.toInt.toNat

/-- What octets are to a session that waits. -/
def interpret (expected : Expected) (data : Octets) : Except Error Interpretation :=
  match Message.decode data with
  | .error e => .error (.decode e)
  | .ok message =>
    let pdu := message.pdu
    if message.version ≠ expected.version then
      .error (.versionMismatch expected.version message.version)
    else if pdu.kind ≠ .response then .error (.unexpectedPdu pdu.kind.tag)
    else if pdu.requestId ≠ expected.requestId then .ok (.stale pdu.requestId)
    else .ok (.answer
      { status := .ofCode pdu.errorStatus
        index := indexField pdu.errorIndex
        requested := expected.requested
        bindings := pdu.bindings
        source := expected.source })

end SnmpManager
