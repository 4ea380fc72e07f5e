import SnmpManager.VarBind

/-!
# Protocol data units

All kinds share one layout: request id, two numbers and the bindings. The two
numbers are error status and error index; GETBULK uses them for non-repeaters
and max-repetitions.

- `PduKind` is what a unit is, with its tag and the name it is shown by.
- `Pdu.write` and `Pdu.read` are the codec.
-/

namespace SnmpManager

/-- What a protocol data unit is. -/
inductive PduKind where
  | getRequest
  | getNextRequest
  | response
  | getBulkRequest
  | trapV2
  deriving DecidableEq, Repr

namespace PduKind

/-- The tag of a kind of unit. -/
def tag : PduKind → UInt8
  | .getRequest => 0xA0
  | .getNextRequest => 0xA1
  | .response => 0xA2
  | .getBulkRequest => 0xA5
  | .trapV2 => 0xA7

/-- All kinds of unit. -/
def all : List PduKind :=
  [.getRequest, .getNextRequest, .response, .getBulkRequest, .trapV2]

/-- The kind of unit a tag stands for. -/
def ofTag? (octet : UInt8) : Option PduKind :=
  all.find? fun kind => kind.tag == octet

@[simp] theorem ofTag?_tag (kind : PduKind) : ofTag? kind.tag = some kind := by
  cases kind <;> rfl

/-- The name a kind of unit is shown by. -/
def name : PduKind → String
  | .getRequest => "GetRequest"
  | .getNextRequest => "GetNextRequest"
  | .response => "Response"
  | .getBulkRequest => "GetBulkRequest"
  | .trapV2 => "SNMPv2-Trap"

end PduKind

/-- A protocol data unit. -/
structure Pdu where
  kind : PduKind
  requestId : Int32
  errorStatus : Int32
  errorIndex : Int32
  bindings : List VarBind
  deriving DecidableEq, Repr

namespace Pdu

/-- The object that says how long the sender has been up. -/
def sysUpTime : Oid := ⟨[1, 3, 6, 1, 2, 1, 1, 3, 0]⟩

/-- The object that says which notification a trap is. -/
def snmpTrapOid : Oid := ⟨[1, 3, 6, 1, 6, 3, 1, 1, 4, 1, 0]⟩

/-- A unit that asks about objects. -/
def asking (kind : PduKind) (requestId : Int32) (oids : List Oid) : Pdu :=
  ⟨kind, requestId, 0, 0, oids.map VarBind.ofOid⟩

/-- A notification; the first two bindings say when and which. -/
def notification (requestId : Int32) (uptime : UInt32) (trapOid : Oid)
    (bindings : List VarBind) : Pdu :=
  ⟨.trapV2, requestId, 0, 0,
    ⟨sysUpTime, .timeTicks uptime⟩ :: ⟨snmpTrapOid, .objectIdentifier trapOid⟩ :: bindings⟩

/-- Put a unit in front of a buffer. -/
def write (pdu : Pdu) (buffer : Buffer) : Buffer :=
  buffer.constructed pdu.kind.tag fun b =>
    (((VarBindList.write pdu.bindings b).integer pdu.errorIndex.toInt64).integer
      pdu.errorStatus.toInt64).integer pdu.requestId.toInt64

/-- The fields of a unit of the given kind. -/
def readFields (kind : PduKind) : Read Pdu := do
  let requestId ← Read.integer
  let errorStatus ← Read.integer
  let errorIndex ← Read.integer
  let bindings ← VarBindList.read
  return ⟨kind, requestId, errorStatus, errorIndex, bindings⟩

/-- Read a unit. A tag of no unit is reported at its own offset. -/
def read : Read Pdu := do
  let start := (← get).offset
  let tag ← Read.tag
  match PduKind.ofTag? tag with
  | none => throw ⟨start, .unknownPduType tag⟩
  | some kind =>
    let content ← Read.bytes (← Read.length)
    Read.within (.ofOctets content) (readFields kind)

end Pdu

end SnmpManager
