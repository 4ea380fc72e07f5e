import SnmpManager.Error
import SnmpManager.Text.Split

/-!
# Agent specifiers

An agent is written `[transport:]host[:port]`. The transport chooses protocol
and address family; a word before the first colon that is no transport is the
host.

- `Agent.parse` reads a specifier.
- `Agent.choose` takes the first of the host's addresses that has the family
  asked for.

With an IPv6 transport the host may stand in brackets; without them the last
colon is the one before the port.
-/

namespace SnmpManager

/-- What carries the messages. -/
inductive Protocol where
  | udp
  | tcp
  deriving DecidableEq, Repr

/-- Where an agent is and how it is reached. -/
structure Agent where
  protocol : Protocol
  family : Family
  host : String
  port : UInt16
  deriving DecidableEq, Repr

namespace Agent

/-- The port on which agents answer. -/
def requestPort : UInt16 := 161

/-- The port on which notifications are taken. -/
def trapPort : UInt16 := 162

/-- The protocol and family a transport word stands for, whatever the case of its letters. -/
def transport? (word : List Char) : Option (Protocol × Family) :=
  match String.ofList (word.map Char.toLower) with
  | "udp" => some (.udp, .v4)
  | "tcp" => some (.tcp, .v4)
  | "udp6" | "udpv6" | "udpipv6" => some (.udp, .v6)
  | "tcp6" | "tcpv6" | "tcpipv6" => some (.tcp, .v6)
  | _ => none

/-- The fault of every specifier that cannot be read. -/
def invalid {α : Type} : Except Error α :=
  .error (.usage .invalidAgent)

/-- An agent from its parts: the host must not be empty and the port must be one. -/
def build (protocol : Protocol) (family : Family) (host : List Char) (port? : Option (List Char))
    (defaultPort : UInt16) : Except Error Agent :=
  if host = [] then invalid
  else match port? with
    | none => .ok ⟨protocol, family, String.ofList host, defaultPort⟩
    | some digits =>
      match Decimal.unsigned? 65536 digits with
      | some n => .ok ⟨protocol, family, String.ofList host, UInt16.ofNat n⟩
      | none => invalid

/-- Host and port after an IPv4 transport. -/
def splitIpv4 (text : List Char) : List Char × Option (List Char) :=
  match Text.splitFirst? ':' text with
  | some (host, port) => (host, some port)
  | none => (text, none)

/-- Host and port after an IPv6 transport. After a closing bracket only a colon is looked for. -/
def splitIpv6? : List Char → Option (List Char × Option (List Char))
  | '[' :: bracketed =>
    (Text.splitFirst? ']' bracketed).map fun (host, tail) =>
      match tail with
      | ':' :: port => (host, some port)
      | _ => (host, none)
  | text => (Text.splitLast? ':' text).map fun (host, port) => (host, some port)

/-- Read a specifier. -/
def parse (spec : String) (defaultPort : UInt16) : Except Error Agent :=
  let chars := spec.toList
  match Text.splitFirst? ':' chars with
  | none => build .udp .v4 chars none defaultPort
  | some (word, rest) =>
    match transport? word with
    | none => build .udp .v4 word (some rest) defaultPort
    | some (protocol, .v4) =>
      let (host, port?) := splitIpv4 rest
      build protocol .v4 host port? defaultPort
    | some (protocol, .v6) =>
      match splitIpv6? rest with
      | none => invalid
      | some (host, port?) => build protocol .v6 host port? defaultPort

/-- The address to connect to, of all that the host has. -/
def choose (agent : Agent) (addresses : List IpAddress) : Except Error SocketAddress :=
  match addresses.find? fun addr => addr.family == agent.family with
  | some addr => .ok ⟨addr, agent.port⟩
  | none => .error (.io none (.noAddress agent.family agent.host))

end Agent

end SnmpManager
