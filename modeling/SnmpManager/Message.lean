import SnmpManager.Pdu

/-!
# Messages

A version, a community and a protocol data unit in one SEQUENCE.

- `Message.encode` writes a message.
- `Message.decode` reads one that takes up all of its octets. Octets after the
  unit inside the SEQUENCE are ignored.
-/

namespace SnmpManager

/-- The most octets a transport takes for one message. -/
def maxMessageSize : Nat := 65535

/-- A community-based message. -/
structure Message where
  version : Version
  community : Octets
  pdu : Pdu
  deriving DecidableEq, Repr

namespace Message

/-- Put a message in front of a buffer. -/
def write (message : Message) (buffer : Buffer) : Buffer :=
  buffer.sequence fun b =>
    ((message.pdu.write b).octetString message.community).integer message.version.number.toInt64

/-- The octets of a message. -/
def encode (message : Message) : Octets :=
  (message.write .empty).octets

/-- The fields of a message. -/
def readFields : Read Message := do
  let start := (← get).offset
  let number ← Read.integer
  match Version.ofNumber? number with
  | none => throw ⟨start, .unknownVersion number⟩
  | some version =>
    let community ← Read.octetString
    let pdu ← Pdu.read
    return ⟨version, community, pdu⟩

/-- Read a message and nothing after it. -/
def read : Read Message := do
  let content ← Read.sequence
  if (← get).atEnd then Read.within content readFields else Read.fail .trailingData

/-- The message some octets are. -/
def decode (data : Octets) : Except DecodeError Message :=
  read.of data

end Message

end SnmpManager
