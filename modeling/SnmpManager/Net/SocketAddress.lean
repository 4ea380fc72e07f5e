import SnmpManager.Net.Ipv6
import SnmpManager.Text.Split

/-!
# Socket addresses

An address of either family with a port. `SocketAddress.text` puts IPv6
addresses in brackets; `SocketAddress.parse?` reads that form back.

An IPv6 address may belong to a zone, the number of the link on which it is
found. Zone zero is no zone and is not written.
-/

namespace SnmpManager

/-- Address family. -/
inductive Family where
  | v4
  | v6
  deriving DecidableEq, Repr

/-- The family as messages name it. -/
def Family.name : Family → String
  | .v4 => "V4"
  | .v6 => "V6"

/-- An address of either family. -/
inductive IpAddress where
  | v4 (addr : Ipv4)
  | v6 (addr : Ipv6) (zone : UInt32)
  deriving DecidableEq, Repr

namespace IpAddress

/-- The family an address belongs to. -/
def family : IpAddress → Family
  | .v4 _ => .v4
  | .v6 _ _ => .v6

/-- A zone: one or more digits. -/
def zone? (text : List Char) : Option UInt32 :=
  (Decimal.nat? text).bind fun n => if n < UInt32.size then some (UInt32.ofNat n) else none

/-- An IPv6 address; a percent sign after it is followed by the zone, which `readZone` reads. -/
def zoned? (readZone : Ipv6 → List Char → Option UInt32) (text : List Char) : Option IpAddress :=
  match Text.splitFirst? '%' text with
  | some (addr, zone) => do
    let addr ← Ipv6.parse? addr
    return .v6 addr (← readZone addr zone)
  | none => (Ipv6.parse? text).map (.v6 · 0)

end IpAddress

/-- An address and a port. -/
structure SocketAddress where
  ip : IpAddress
  port : UInt16
  deriving DecidableEq, Repr

namespace SocketAddress

/-- The address, in brackets with its zone if it is IPv6, then a colon and the port. -/
def text (addr : SocketAddress) : String :=
  match addr.ip with
  | .v4 ip => s!"{ip.text}:{addr.port}"
  | .v6 ip zone =>
    if zone = 0 then s!"[{ip.text}]:{addr.port}" else s!"[{ip.text}%{zone}]:{addr.port}"

/-- A port: one or more digits. -/
def port? (text : List Char) : Option UInt16 :=
  (Decimal.nat? text).bind fun n => if n < 65536 then some (UInt16.ofNat n) else none

/-- A text that is one socket address and nothing else. -/
def parse? (text : List Char) : Option SocketAddress :=
  match text with
  | '[' :: rest =>
    match rest.dropWhile (· != ']') with
    | ']' :: ':' :: port => do
      let ip ← IpAddress.zoned? (fun _ => IpAddress.zone?) (rest.takeWhile (· != ']'))
      let port ← port? port
      return ⟨ip, port⟩
    | _ => none
  | _ => do
    let (ip, rest) ← Ipv4.read? text
    match rest with
    | ':' :: port => do
      let port ← port? port
      return ⟨.v4 ip, port⟩
    | _ => none

end SocketAddress

end SnmpManager
