import SnmpManager.Ber.Buffer
import SnmpManager.Ber.Cursor
import SnmpManager.Text.Utf8

/-!
# Values

What a binding can hold: the values a manager sends, those that only agents
send, the three exceptions that stand for "no value here", and values under any
other tag, kept as they came.

- `Value.write` and `Value.read` are the codec.
- `Value.text` is the plain rendering, without a type in front.
-/

namespace SnmpManager

/-- The value of a binding. -/
inductive Value where
  | integer (n : Int64)
  | octetString (content : Octets)
  | null
  | objectIdentifier (oid : Oid)
  | ipAddress (addr : Ipv4)
  | counter32 (n : UInt32)
  | gauge32 (n : UInt32)
  /-- Hundredths of a second. -/
  | timeTicks (n : UInt32)
  | opaqueData (content : Octets)
  | counter64 (n : UInt64)
  | noSuchObject
  | noSuchInstance
  | endOfMibView
  /-- A value under a tag without a meaning here. -/
  | unknown (tag : UInt8) (content : Octets)
  deriving DecidableEq, Repr, Inhabited

namespace Value

/-- Whether the value says that there is none. -/
def isException : Value → Bool
  | .noSuchObject | .noSuchInstance | .endOfMibView => true
  | _ => false

/-- The content of a string. -/
def content? : Value → Option Octets
  | .octetString content | .opaqueData content => some content
  | _ => none

/-- The object a value points at. -/
def oid? : Value → Option Oid
  | .objectIdentifier oid => some oid
  | _ => none

/-- The type as printed in front of a value. -/
def typeName : Value → String
  | .integer _ => "INTEGER"
  | .octetString _ => "STRING"
  | .null => "NULL"
  | .objectIdentifier _ => "OID"
  | .ipAddress _ => "IpAddress"
  | .counter32 _ => "Counter32"
  | .gauge32 _ => "Gauge32"
  | .timeTicks _ => "Timeticks"
  | .opaqueData _ => "Opaque"
  | .counter64 _ => "Counter64"
  | .noSuchObject => "noSuchObject"
  | .noSuchInstance => "noSuchInstance"
  | .endOfMibView => "endOfMibView"
  | .unknown _ _ => "Unknown"

/-! ## Codec -/

/-- Put a value in front of a buffer. -/
def write (value : Value) (buffer : Buffer) : Buffer :=
  match value with
  | .integer n => buffer.integer n
  | .octetString content => buffer.octetString content
  | .null => buffer.blank Tag.null
  | .objectIdentifier oid => buffer.objectIdentifier oid
  | .ipAddress addr => buffer.ipAddress addr
  | .counter32 n => buffer.unsigned Tag.counter32 n.toUInt64
  | .gauge32 n => buffer.unsigned Tag.gauge32 n.toUInt64
  | .timeTicks n => buffer.unsigned Tag.timeTicks n.toUInt64
  | .opaqueData content => buffer.tagged Tag.opaqueData content
  | .counter64 n => buffer.unsigned Tag.counter64 n
  | .noSuchObject => buffer.blank Tag.noSuchObject
  | .noSuchInstance => buffer.blank Tag.noSuchInstance
  | .endOfMibView => buffer.blank Tag.endOfMibView
  | .unknown tag content => buffer.tagged tag content

/-- An unsigned number that fits 32 bits. -/
def readUnsigned32 (n : Nat) : Read UInt32 := do
  return (← Read.unsignedContent n 32).toUInt32

/-- An address, which has four octets. -/
def readIpAddress (n : Nat) : Read Value := do
  if n ≠ 4 then Read.fail (.invalidIpAddressLength n)
  else match ← Read.bytes 4 with
    | [a, b, c, d] => return .ipAddress ⟨a, b, c, d⟩
    | _ => Read.fail .truncatedData

/-- A value that has no content of interest; any content is skipped. -/
def readBlank (n : Nat) (value : Value) : Read Value := do
  let _ ← Read.bytes n
  return value

/-- The content of a value of `n` octets under a tag with a meaning. -/
def readContent (n : Nat) : Tag.ValueKind → Read Value
  | .integer => do return .integer (← Read.integerContent n)
  | .octetString => do return .octetString (← Read.bytes n)
  | .null => readBlank n .null
  | .objectIdentifier => do return .objectIdentifier (← Read.oidContent n)
  | .ipAddress => readIpAddress n
  | .counter32 => do return .counter32 (← readUnsigned32 n)
  | .gauge32 => do return .gauge32 (← readUnsigned32 n)
  | .timeTicks => do return .timeTicks (← readUnsigned32 n)
  | .opaqueData => do return .opaqueData (← Read.bytes n)
  | .counter64 => do return .counter64 (← Read.unsignedContent n 64)
  | .noSuchObject => readBlank n .noSuchObject
  | .noSuchInstance => readBlank n .noSuchInstance
  | .endOfMibView => readBlank n .endOfMibView

/-- Read a value. -/
def read : Read Value := do
  let tag ← Read.tag
  let n ← Read.length
  match Tag.ValueKind.ofTag? tag with
  | some kind => readContent n kind
  | none => return .unknown tag (← Read.bytes n)

/-! ## Text -/

/-- The value without a type in front. -/
def text : Value → String
  | .integer n => toString n
  | .octetString content => String.ofList (Utf8.decodeLossy content)
  | .null => "NULL"
  | .objectIdentifier oid => oid.text
  | .ipAddress addr => addr.text
  | .counter32 n | .gauge32 n | .timeTicks n => toString n
  | .opaqueData content | .unknown _ content => Octets.upperHex content
  | .counter64 n => toString n
  | .noSuchObject => "noSuchObject"
  | .noSuchInstance => "noSuchInstance"
  | .endOfMibView => "endOfMibView"

end Value

end SnmpManager
