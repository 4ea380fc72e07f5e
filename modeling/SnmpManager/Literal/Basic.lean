import SnmpManager.Literal.OctetBuffer
import SnmpManager.Mib.Name
import SnmpManager.Value

/-!
# Typed literals

A value as typed on the command line: a letter for the type and a text.

- `Literal.Kind` is the type, chosen by one letter.
- `Literal.Kind.parse` is the rule of each type.
- `Literal.parse` reads a whole pair and names the object and the text in its
  error.

Byte literals are tokens between separators; empty tokens are skipped. The
first bad token decides the error.
-/

namespace SnmpManager.Literal

/-- The type of a literal. -/
inductive Kind where
  | ipAddress
  | counter32
  | integer
  | timeTicks
  | objectIdentifier
  | null
  | string
  | hex
  | decimal
  | bits
  deriving DecidableEq, Repr

/-- The type a letter stands for. -/
def Kind.ofLetter? : Char → Option Kind
  | 'a' => some .ipAddress
  | 'c' => some .counter32
  | 'u' | 'i' => some .integer
  | 't' => some .timeTicks
  | 'o' => some .objectIdentifier
  | 'n' => some .null
  | 's' => some .string
  | 'x' => some .hex
  | 'd' => some .decimal
  | 'b' => some .bits
  | _ => none

/-! ## Tokens -/

/-- The nonempty runs of characters between separators. -/
def tokens (separators text : List Char) : List (List Char) :=
  (text.splitOnP fun c => separators.contains c).filter (· ≠ [])

/-- The number a token denotes. -/
def number (base : Nat) (token : List Char) : Except LiteralFault Nat :=
  match token.find? fun c => (Radix.digit? base c).isNone with
  | some bad => .error (.invalidCharacter bad)
  | none => .ok (token.foldl (fun n c => n * base + (Radix.digit? base c).getD 0) 0)

/-- Append the octet a token denotes. -/
def pushByte (base : Nat) (buffer : OctetBuffer) (token : List Char) :
    Except LiteralFault OctetBuffer :=
  match number base token with
  | .error fault => .error fault
  | .ok n => if n > 255 then .error .byteOutOfRange else buffer.push (UInt8.ofNat n)

/-- Octets, one token each. -/
def parseBytes (base : Nat) (separators text : List Char) : Except LiteralFault Octets := do
  let buffer ← (tokens separators text).foldlM (pushByte base) .empty
  return buffer.octets

/-- Bit `i` counts from the top bit of the first octet. -/
def bitMask (i : Nat) : UInt8 :=
  0x80 >>> UInt8.ofNat (i % 8)

/-- Set the bit whose index a token denotes. -/
def setBit (buffer : OctetBuffer) (token : List Char) : Except LiteralFault OctetBuffer :=
  match number 10 token with
  | .error fault => .error fault
  | .ok i => buffer.modify (i / 8) (· ||| bitMask i)

/-- Octets with the listed bits set. -/
def parseBits (text : List Char) : Except LiteralFault Octets := do
  let buffer ← (tokens [' ', '\t', ','] text).foldlM setBit .empty
  return buffer.octets

/-! ## Rules -/

/-- A signed number of a width, which is given by half the number of its values. -/
def parseSigned (half : Nat) (text : String) : Except LiteralFault Int :=
  match Decimal.signed? half text.toList with
  | some n => .ok n
  | none => .error .outOfRange

/-- The rule of a type. -/
def Kind.parse (kind : Kind) (text : String) : Except LiteralFault Value :=
  match kind with
  | .ipAddress =>
    match Ipv4.parse? text.toList with
    | some addr => .ok (.ipAddress addr)
    | none => .error .invalidAddress
  | .counter32 => (parseSigned Decimal.half32 text).map fun n => .counter32 (UInt32.ofInt n)
  | .integer => (parseSigned Decimal.half64 text).map fun n => .integer (Int64.ofInt n)
  | .timeTicks => (parseSigned Decimal.half64 text).map fun n => .timeTicks (UInt32.ofInt n)
  | .objectIdentifier =>
    match Mib.resolve text with
    | .ok oid => .ok (.objectIdentifier oid)
    | .error _ => .error .unknownObject
  | .null => .ok .null
  | .string => .ok (.octetString (Utf8.encode text))
  | .hex => (parseBytes 16 [' ', '\t', ','] text.toList).map .octetString
  | .decimal => (parseBytes 10 [' ', '\t'] text.toList).map .octetString
  | .bits => (parseBits text.toList).map .octetString

/-- Read a literal for an object. Only the first letter of the type counts; without one the
arguments are not triples. -/
def parse (oid type text : String) : Except Error Value :=
  match type.toList with
  | [] => .error (.usage .trapArguments)
  | letter :: _ =>
    match Kind.ofLetter? letter with
    | none => .error (.literal oid text (.unknownType letter))
    | some kind =>
      match kind.parse text with
      | .error fault => .error (.literal oid text fault)
      | .ok value => .ok value

/-- A type whose first letter is known is read by its rule; a fault is one of the literal. -/
theorem parse_of_letter {type : String} {letter : Char} {kind : Kind}
    (first : type.toList.head? = some letter) (known : Kind.ofLetter? letter = some kind)
    (oid text : String) : parse oid type text = (kind.parse text).mapError (.literal oid text) := by
  obtain ⟨more, written⟩ := List.head?_eq_some_iff.mp first
  rw [parse, written]
  simp only [known]
  cases kind.parse text <;> rfl

end SnmpManager.Literal
