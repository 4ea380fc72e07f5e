import SnmpManager.Octets
import SnmpManager.Text.Decimal

/-!
# IPv4 addresses

- `Ipv4.read?` reads an address off the front of a text and returns the rest.
- `Ipv4.parse?` reads a whole text.
- `Ipv4.text` is dotted decimal.

An address is four numbers below 256 between single dots. Each has one to three
digits and no leading zero.
-/

namespace SnmpManager

/-- Four octets in network order. -/
structure Ipv4 where
  a : UInt8
  b : UInt8
  c : UInt8
  d : UInt8
  deriving DecidableEq, Repr, Inhabited

namespace Ipv4

/-- The octets in network order. -/
def octets (addr : Ipv4) : Octets :=
  [addr.a, addr.b, addr.c, addr.d]

/-- Dotted decimal. -/
def text (addr : Ipv4) : String :=
  s!"{addr.a}.{addr.b}.{addr.c}.{addr.d}"

/-- One number of an address, with what follows its digits. -/
def readPart? (text : List Char) : Option (UInt8 × List Char) :=
  let digits := text.takeWhile Char.isDigit
  let value := Nat.ofDigitChars 10 digits 0
  if digits = [] ∨ digits.length > 3 ∨ (digits.head? = some '0' ∧ digits.length > 1) ∨ value > 255
  then none
  else some (UInt8.ofNat value, text.dropWhile Char.isDigit)

/-- One number of an address after a dot. -/
def readNext? : List Char → Option (UInt8 × List Char)
  | '.' :: rest => readPart? rest
  | _ => none

/-- An address at the front of a text, with what follows it. -/
def read? (text : List Char) : Option (Ipv4 × List Char) := do
  let (a, rest) ← readPart? text
  let (b, rest) ← readNext? rest
  let (c, rest) ← readNext? rest
  let (d, rest) ← readNext? rest
  return (⟨a, b, c, d⟩, rest)

/-- A text that is one address and nothing else. -/
def parse? (text : List Char) : Option Ipv4 :=
  match read? text with
  | some (addr, []) => some addr
  | _ => none

end Ipv4

end SnmpManager
