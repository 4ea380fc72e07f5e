/-!
# Tags

The identifier octets of this protocol. A tag is one octet: class in the two top
bits, the constructed flag below them, then the number.

- `Tag` names the octets.
- `Tag.ValueKind` and `Tag.PduKind` are the values and messages with a tag of
  their own, each with the octet it has and a reader for octets.
-/

namespace SnmpManager

namespace Tag

def integer : UInt8 := 0x02
def octetString : UInt8 := 0x04
def null : UInt8 := 0x05
def objectIdentifier : UInt8 := 0x06
def sequence : UInt8 := 0x30
def ipAddress : UInt8 := 0x40
def counter32 : UInt8 := 0x41
def gauge32 : UInt8 := 0x42
def timeTicks : UInt8 := 0x43
def opaqueData : UInt8 := 0x44
def counter64 : UInt8 := 0x46
def noSuchObject : UInt8 := 0x80
def noSuchInstance : UInt8 := 0x81
def endOfMibView : UInt8 := 0x82

/-- The kinds of value that have a tag of their own. -/
inductive ValueKind where
  | integer
  | octetString
  | null
  | objectIdentifier
  | ipAddress
  | counter32
  | gauge32
  | timeTicks
  | opaqueData
  | counter64
  | noSuchObject
  | noSuchInstance
  | endOfMibView
  deriving DecidableEq, Repr

/-- The tag of a kind of value. -/
def ValueKind.tag : ValueKind → UInt8
  | .integer => Tag.integer
  | .octetString => Tag.octetString
  | .null => Tag.null
  | .objectIdentifier => Tag.objectIdentifier
  | .ipAddress => Tag.ipAddress
  | .counter32 => Tag.counter32
  | .gauge32 => Tag.gauge32
  | .timeTicks => Tag.timeTicks
  | .opaqueData => Tag.opaqueData
  | .counter64 => Tag.counter64
  | .noSuchObject => Tag.noSuchObject
  | .noSuchInstance => Tag.noSuchInstance
  | .endOfMibView => Tag.endOfMibView

/-- All kinds of value. -/
def ValueKind.all : List ValueKind :=
  [.integer, .octetString, .null, .objectIdentifier, .ipAddress, .counter32, .gauge32,
    .timeTicks, .opaqueData, .counter64, .noSuchObject, .noSuchInstance, .endOfMibView]

/-- The kind of value an octet stands for. -/
def ValueKind.ofTag? (octet : UInt8) : Option ValueKind :=
  all.find? fun kind => kind.tag == octet

@[simp] theorem ValueKind.ofTag?_tag (kind : ValueKind) : ofTag? kind.tag = some kind := by
  cases kind <;> rfl

end Tag

end SnmpManager
