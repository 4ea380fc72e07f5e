import SnmpManager.Error
import SnmpManager.Text.Radix

/-!
# Hosts as they are written

The host of an agent is an address that is written out, or a name that has to be
looked up.

- `Hostname.parse` tells the two apart and rejects what is neither.
- `Hostname.ipv4?` reads one to four numbers between dots, each in base ten,
  eight or sixteen. The last one fills the octets that the others leave, so that
  `127.1` is the address `127.0.0.1`.
- `Hostname.zone?` reads the zone that may follow an IPv6 address after a
  percent sign.
- `Hostname.isName` says what can be a name.
-/

namespace SnmpManager

/-- What stands for a host. -/
inductive Hostname where
  | address (ip : IpAddress)
  | name (text : List Char)
  deriving DecidableEq, Repr

namespace Hostname

/-! ## IPv4 addresses -/

/-- A number in base sixteen after `0x`, in base eight after another `0`, otherwise in base ten. -/
def number? : List Char → Option Nat
  | '0' :: 'x' :: digits | '0' :: 'X' :: digits => Radix.nat? 16 digits
  | '0' :: digits => Radix.nat? 8 ('0' :: digits)
  | digits => Radix.nat? 10 digits

/-- A number as so many octets, if it fits them. -/
def octets? (count n : Nat) : Option Octets :=
  let octets := Octets.ofNat count n
  if octets.toNat = n then some octets else none

/-- So many octets from numbers: the last number fills all that are left, and each before it is
one octet. -/
def spread? : (count : Nat) → List Nat → Option Octets
  | count + 1, [n] => octets? (count + 1) n
  | count + 1, n :: rest => do return (← octets? 1 n) ++ (← spread? count rest)
  | _, _ => none

/-- A text that is one IPv4 address in numbers and nothing else. -/
def ipv4? (text : List Char) : Option Ipv4 := do
  match ← spread? 4 (← (text.splitOn '.').mapM number?) with
  | [a, b, c, d] => some ⟨a, b, c, d⟩
  | _ => none

/-! ## Zones -/

/-- Whether an address means something on one link only: a link-local one, or a multicast one
that stays on the node or the link. -/
def isLinkBound (addr : Ipv6) : Bool :=
  let first := addr.groups[0]
  first &&& 0xFFC0 == 0xFE80 || first &&& 0xFF0F == 0xFF01 || first &&& 0xFF0F == 0xFF02

/-- The zone of an address: a number or, for an address of one link, the name of an interface. -/
def zone? (interfaces : List (String × UInt32)) (addr : Ipv6) (text : List Char) : Option UInt32 :=
  let named := if isLinkBound addr then interfaces.lookup (String.ofList text) else none
  named <|> IpAddress.zone? text

/-! ## Names -/

/-- A part of a name between dots: up to 63 letters, digits, hyphens and underscores. -/
def isLabel (label : List Char) : Bool :=
  label ≠ [] && label.length ≤ 63 && label.all fun c => c.isAlphanum || c == '-' || c == '_'

/-- Whether a text can be a name: parts between dots, together at most 253 characters, without a
hyphen in front. One dot may follow, and a dot alone is the root of all names. -/
def isName (text : List Char) : Bool :=
  let parts := if text.getLast? = some '.' then text.dropLast else text
  text = ['.'] ||
    (text.head? ≠ some '-' && parts.length ≤ 253 && (parts.splitOn '.').all isLabel)

/-! ## Reading -/

/-- An address that is written out. -/
def address? (interfaces : List (String × UInt32)) (text : List Char) : Option IpAddress :=
  (ipv4? text).map .v4 <|> IpAddress.zoned? (zone? interfaces) text

/-- Read a host, on a machine with the given interfaces and their numbers. -/
def parse (interfaces : List (String × UInt32)) (host : String) : Except IoFault Hostname :=
  let text := host.toList
  match address? interfaces text with
  | some ip => .ok (.address ip)
  | none =>
    if text.contains '\x00' then .error .nulInHost
    else if isName text then .ok (.name text)
    else .error .nameUnknown

end Hostname

end SnmpManager
