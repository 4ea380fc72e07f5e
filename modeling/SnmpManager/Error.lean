import SnmpManager.ErrorStatus
import SnmpManager.Net.SocketAddress
import SnmpManager.Oid.Basic
import SnmpManager.Text.Elapsed
import SnmpManager.Text.Quoted
import SnmpManager.Version

/-!
# Errors

Every way a command can fail, as a cause with the data that belongs to it.

- `DecodeFault` and `DecodeError`: octets that are no message, and where.
- `LiteralFault`: a typed value that its type does not allow.
- `UsageFault`: arguments a command cannot take.
- `IoFault`: a connection or an output that did not work.
- `Error` joins them; `Error.message` is the one place that puts a cause into
  words, `Error.category` is what decides how a failure is reported.

One cause is no error of a command: where a deadline would lie past the end of the
clock, the program stops on the spot (`Error.clockOverflow`). Nothing handles it and
nothing is reported of it; it comes out of whatever was going on, and that is the end.
-/

namespace SnmpManager

/-! ## Decoding -/

/-- Why octets cannot be decoded. -/
inductive DecodeFault where
  /-- Another tag stands where `expected` is due. -/
  | unexpectedTag (expected actual : UInt8)
  | truncatedData
  | invalidLength
  | indefiniteLength
  /-- A length field of more octets than are supported. -/
  | lengthTooLong (octets : Nat)
  | lengthExceedsMax (length max : Nat)
  | zeroLengthInteger
  /-- A number that does not fit its type. -/
  | integerOverflow
  | invalidOidEncoding
  /-- A NULL with content. -/
  | invalidNull
  | invalidIpAddressLength (length : Nat)
  | unknownVersion (number : Int32)
  | unknownPduType (tag : UInt8)
  /-- Octets after the end of the message. -/
  | trailingData
  deriving DecidableEq, Repr

/-- The fault in words. -/
def DecodeFault.message : DecodeFault → String
  | .unexpectedTag expected actual =>
    s!"expected tag 0x{Octets.upperHexByte expected}, got 0x{Octets.upperHexByte actual}"
  | .truncatedData => "unexpected end of data"
  | .invalidLength => "invalid length encoding"
  | .indefiniteLength => "indefinite length encoding not supported"
  | .lengthTooLong octets => s!"length encoding too long ({octets} octets)"
  | .lengthExceedsMax length max => s!"length {length} exceeds maximum {max}"
  | .zeroLengthInteger => "zero-length integer"
  | .integerOverflow => "integer overflow"
  | .invalidOidEncoding => "invalid OID encoding"
  | .invalidNull => "NULL with non-zero length"
  | .invalidIpAddressLength length => s!"IP address must be 4 bytes, got {length}"
  | .unknownVersion number => s!"unknown SNMP version: {number}"
  | .unknownPduType tag => s!"unknown PDU type: 0x{Octets.upperHexByte tag}"
  | .trailingData => "trailing data after message"

/-- A fault and the offset at which it shows. -/
structure DecodeError where
  offset : Nat
  fault : DecodeFault
  deriving DecidableEq, Repr

/-! ## Typed literals -/

/-- Why a literal is rejected. -/
inductive LiteralFault where
  /-- No value type has this letter. -/
  | unknownType (letter : Char)
  /-- Not a number, or outside the range of the type. -/
  | outOfRange
  | invalidAddress
  /-- Neither a digit of the base nor a separator. -/
  | invalidCharacter (c : Char)
  | byteOutOfRange
  | unknownObject
  deriving DecidableEq, Repr

/-- The fault in words. -/
def LiteralFault.message : LiteralFault → String
  | .unknownType letter => "unknown type '" ++ String.singleton letter ++ "'"
  | .outOfRange => "number out of range"
  | .invalidAddress => "invalid IPv4 address"
  | .invalidCharacter c => s!"invalid character {Quoted.char c}"
  | .byteOutOfRange => "byte out of range"
  | .unknownObject => "unknown object identifier"

/-! ## Usage -/

/-- Why the number after a flag is rejected. -/
inductive CountFault where
  | missing
  | negative
  | tooLarge
  deriving DecidableEq, Repr

/-- The fault in words. -/
def CountFault.message : CountFault → String
  | .missing => "invalid argument"
  | .negative => "too small argument"
  | .tooLarge => "too large argument"

/-- What a command cannot take. -/
inductive UsageFault where
  /-- A bulk request in a version 1 session. -/
  | v2PduOnV1
  /-- More non-repeaters than objects. -/
  | tooFewObjects (nonRepeaters : UInt32) (objects : Nat)
  | trapOnV1
  /-- Not `agent uptime oid` followed by triples. -/
  | trapArguments
  /-- Too few or too many arguments. -/
  | arguments
  | invalidAgent
  /-- A flag the command does not have. -/
  | invalidFlag (option flag : Char)
  | invalidFlagArgument (flag : Char) (fault : CountFault)
  | invalidVersion
  /-- A request that is never answered, where an answer is wanted. -/
  | unconfirmed
  deriving DecidableEq, Repr

/-- The fault in words. -/
def UsageFault.message : UsageFault → String
  | .v2PduOnV1 => "Cannot send V2 PDU on V1 session"
  | .tooFewObjects _ _ => "need more objects than -Cn<num>"
  | .trapOnV1 => "trap is not supported for snmp v1"
  | .trapArguments => "trap needs agent, uptime, oid and value triples"
  | .arguments => "wrong number of arguments"
  | .invalidAgent => "invalid agent"
  | .invalidFlag option flag => s!"-{option}{flag}: invalid flag"
  | .invalidFlagArgument flag fault => s!"-C{flag}: {fault.message}"
  | .invalidVersion => "-v: Invalid argument"
  | .unconfirmed => "request has no response"

/-! ## Input and output -/

/-- Why a connection or an output failed. -/
inductive IoFault where
  /-- No route to the address. -/
  | networkUnreachable
  /-- The host has no address of the family asked for. -/
  | noAddress (family : Family) (host : String)
  /-- A host name without an answer from the name service. -/
  | nameNotResolved
  /-- A host that is neither an address nor a name, or a name that does not exist. -/
  | nameUnknown
  /-- A host with a NUL in it. -/
  | nulInHost
  /-- A stream that ended inside a message. -/
  | earlyEnd
  /-- An output with no room left. -/
  | sinkFull
  /-- Anything else the system reports, in its words. -/
  | other (text : String)
  deriving DecidableEq, Repr

/-- The fault in words. -/
def IoFault.message : IoFault → String
  | .networkUnreachable => "Network is unreachable (os error 101)"
  | .noAddress family host => s!"no {family.name} address for {host}"
  | .nameNotResolved =>
    "failed to lookup address information: Temporary failure in name resolution"
  | .nameUnknown => "failed to lookup address information: Name or service not known"
  | .nulInHost => "file name contained an unexpected NUL byte"
  | .earlyEnd => "early eof"
  | .sinkFull => "sink full"
  | .other text => text

/-! ## All errors -/

/-- Broad class of a failure. -/
inductive ErrorCategory where
  /-- The agent answered with an error status. -/
  | protocol
  /-- The round trip did not complete, or the answer could not be read. -/
  | transport
  /-- A text that denotes no value or object. -/
  | valueNotation
  /-- An agent that breaks the order of a walk. -/
  | walkIntegrity
  /-- Wrong arguments. -/
  | usage
  /-- No failure that is reported: the program stopped. -/
  | crash
  deriving DecidableEq, Repr

/-- The class in one word. -/
def ErrorCategory.name : ErrorCategory → String
  | .protocol => "Protocol"
  | .transport => "Transport"
  | .valueNotation => "ValueNotation"
  | .walkIntegrity => "WalkIntegrity"
  | .usage => "Usage"
  | .crash => "Crash"

/-- Why a command failed. -/
inductive Error where
  | io (target : Option SocketAddress) (fault : IoFault)
  /-- No answer within the time allowed. -/
  | timeout (target : Option SocketAddress) (elapsed : Duration) (requestId : Int32) (retries : Nat)
  /-- An error status, with the requested object that its index names. -/
  | snmp (target : Option SocketAddress) (status : ErrorStatus) (index : UInt32) (oid : Option Oid)
  | decode (error : DecodeError)
  | messageTooLarge (size max : Nat)
  /-- An answer that is no response. -/
  | unexpectedPdu (tag : UInt8)
  | versionMismatch (expected actual : Version)
  | invalidOid (fault : OidFault) (input : Option String)
  /-- A name that is not in the table. -/
  | unknownObject (name : String)
  | literal (oid text : String) (fault : LiteralFault)
  /-- A walk that was led backwards. -/
  | nonIncreasingOid (previous current : Oid)
  | usage (fault : UsageFault)
  /-- A deadline past the end of the clock, at which the program stops. -/
  | clockOverflow
  deriving DecidableEq, Repr

namespace Error

/-- A status in words, with the object it is about or else the index. -/
def statusText (status : ErrorStatus) (index : UInt32) : Option String → String
  | some oid => s!"Can't parse oid {oid}: {status.reason}"
  | none => s!"{status.reason} (index {index})"

/-- A phrase about the target, if there is one. -/
def about (phrase : String) : Option SocketAddress → String
  | some target => s!" {phrase} {target.text}"
  | none => ""

/-- The error in words. -/
def message : Error → String
  | .io target fault => "I/O error" ++ about "communicating with" target ++ ": " ++ fault.message
  | .timeout target elapsed requestId retries =>
    s!"timeout after {elapsed.text}" ++ about "waiting for" target ++
      s!" (request_id={requestId}, retries={retries})"
  | .snmp _ status index oid => statusText status index (oid.map Oid.text)
  | .decode error => s!"decode error at offset {error.offset}: {error.fault.message}"
  | .messageTooLarge size max => s!"message too large: {size} bytes exceeds maximum {max}"
  | .unexpectedPdu tag => s!"unexpected PDU type 0x{Octets.upperHexByte tag} in reply"
  | .versionMismatch expected actual =>
    s!"version mismatch: expected {expected.text}, got {actual.text}"
  | .invalidOid fault input =>
    match input with
    | some text => s!"invalid OID {text}: {fault.message}"
    | none => s!"invalid OID: {fault.message}"
  | .unknownObject name => s!"{name}: Unknown object identifier"
  | .literal oid text fault => s!"{oid}: Bad value notation ({text}): {fault.message}"
  | .nonIncreasingOid previous current =>
    s!"OID not increasing: {current.text} after {previous.text}"
  | .usage fault => fault.message
  | .clockOverflow => "overflow when adding duration to instant"

/-- What happened, in one word. -/
def name : Error → String
  | .io .. => "Io"
  | .timeout .. => "Timeout"
  | .snmp .. => "Snmp"
  | .decode _ => "Decode"
  | .messageTooLarge .. => "MessageTooLarge"
  | .unexpectedPdu _ => "UnexpectedPdu"
  | .versionMismatch .. => "VersionMismatch"
  | .invalidOid .. => "InvalidOid"
  | .unknownObject _ => "UnknownObject"
  | .literal .. => "ValueNotation"
  | .nonIncreasingOid .. => "NonIncreasingOid"
  | .usage _ => "Usage"
  | .clockOverflow => "ClockOverflow"

/-- The class an error belongs to. -/
def category : Error → ErrorCategory
  | .snmp .. => .protocol
  | .io .. | .timeout .. | .decode _ | .messageTooLarge .. | .unexpectedPdu _
  | .versionMismatch .. => .transport
  | .invalidOid .. | .unknownObject _ | .literal .. => .valueNotation
  | .nonIncreasingOid .. => .walkIntegrity
  | .usage _ => .usage
  | .clockOverflow => .crash

/-- The agent an error is about, where it names one. -/
def target : Error → Option SocketAddress
  | .io target _ | .timeout target _ _ _ | .snmp target _ _ _ => target
  | _ => none

/-- Whether the error is that no answer came in time. -/
def isTimeout : Error → Bool
  | .timeout .. => true
  | _ => false

end Error

end SnmpManager
