import SnmpManager.Run.Network
import SnmpManager.Session.Stream
import SnmpManager.System.Clock
import Std.Async.DNS
import Std.Async.TCP
import Std.Async.Timer
import Std.Async.UDP

/-!
# Sockets

Channels to agents over the sockets of the host.

- `Sockets.network` looks up names and opens channels.
- `Sockets.datagrams` is a channel over UDP: a connected socket, one message in
  each datagram.
- `Sockets.stream` is a channel over TCP: messages are cut off the front of what
  has been received, as `Stream.readMessage` says.
-/

namespace SnmpManager.Sockets

/-! ## Errors of the host -/

/-- A fault in the words of the host, with its number, which may come negated. -/
def numbered (code : UInt32) (details : String) : IoFault :=
  let number := if code < 0x80000000 then code else 0 - code
  if number = 101 then .networkUnreachable
  else if number = 3001 then .nameNotResolved
  else if number = 3008 then .nameUnknown
  else .other s!"{details.capitalize} (os error {number})"

/-- What the host reports. -/
def faultOf : IO.Error → IoFault
  | .alreadyExists _ code details | .otherError code details | .resourceBusy code details
  | .resourceVanished code details | .unsupportedOperation code details
  | .hardwareFault code details | .unsatisfiedConstraints code details
  | .illegalOperation code details | .protocolError code details | .timeExpired code details
  | .interrupted _ code details | .noFileOrDirectory _ code details
  | .invalidArgument _ code details | .permissionDenied _ code details
  | .resourceExhausted _ code details | .inappropriateType _ code details
  | .noSuchThing _ code details => numbered code details
  | .unexpectedEof => .earlyEnd
  | .userError text => .other text

/-- Run an action; a failure of the host becomes an error about the target. -/
def guarded {α : Type} (target : Option SocketAddress) (action : IO α) : IO (Except Error α) := do
  try return .ok (← action)
  catch e => return .error (.io target (faultOf e))

/-! ## Addresses -/

/-- An address in the form the host takes, which has no place for a zone. -/
def toHost (address : SocketAddress) : Std.Net.SocketAddress :=
  match address.ip with
  | .v4 ip => .v4 ⟨.ofParts ip.a ip.b ip.c ip.d, address.port⟩
  | .v6 ip _ => .v6 ⟨⟨ip.groups⟩, address.port⟩

/-- An address in the form the host gives. -/
def ofHost : Std.Net.IPAddr → IpAddress
  | .v4 addr => .v4 ⟨addr.octets[0], addr.octets[1], addr.octets[2], addr.octets[3]⟩
  | .v6 addr => .v6 ⟨addr.segments⟩ 0

/-- The addresses of a host: the one that is written out, or those of the name service. -/
def addresses (host : String) : IO (Except Error (List IpAddress)) :=
  match Hostname.parse [] host with
  | .error fault => return .error (.io none fault)
  | .ok (.address ip) => return .ok [ip]
  | .ok (.name _) => guarded none do
    let found ← (Std.Async.DNS.getAddrInfo host "").block
    return found.toList.map ofHost

/-! ## Waiting -/

/-- A span in whole milliseconds, not shorter than it is. -/
def milliseconds (span : Duration) : Std.Time.Millisecond.Offset :=
  .ofNat ((span.nanos + 999999) / 1000000)

/-- Wait for an event, at most so long. -/
def within {α : Type} (limit : Duration) (event : Std.Async.Selector α) : IO (Option α) :=
  let wait : Std.Async.Async (Option α) := do
    let alarm ← Std.Async.Selector.sleep (milliseconds limit)
    Std.Async.Selectable.one
      #[.case event fun a => return some a, .case alarm fun _ => return none]
  wait.block

/-- The error of a wait that came to its end. -/
def expired (peer : SocketAddress) (limit : Duration) (requestId : Int32) : Error :=
  .timeout (some peer) limit requestId 0

/-- More messages than arrive within one wait. -/
def backlog : Nat := 0x100000000

/-! ## Datagrams -/

/-- Wait for one datagram. -/
def receiveDatagram (socket : Std.Async.UDP.Socket) (peer : SocketAddress) (requestId : Int32)
    (limit : Duration) : IO (Except Error Octets) := do
  match ← guarded peer (within limit (socket.recvSelector maxMessageSize.toUInt64)) with
  | .error e => return .error e
  | .ok none => return .error (expired peer limit requestId)
  | .ok (some (data, _)) => return .ok data.toList

/-- A channel over UDP. -/
def datagrams (peer : SocketAddress) : IO (Except Error (Channel IO)) :=
  guarded peer do
    let socket ← Std.Async.UDP.Socket.mk
    socket.connect (toHost peer)
    return {
      peer
      isStream := false
      send := fun data => guarded peer (socket.send ⟨data.toArray⟩).block
      receive := receiveDatagram socket peer
      now := Clock.now
      backlog := pure backlog }

/-! ## Streams -/

/-- Wait for one message until the deadline, with what was received before in `pending`;
`none` if it does not arrive in time. -/
partial def receiveMessage (client : Std.Async.TCP.Socket.Client) (pending : IO.Ref Octets)
    (deadline : Duration) : IO (Option (Except Stream.Fault Octets)) := do
  match Stream.readMessage (← pending.get) with
  | (.error .ended, _) =>
    let limit := deadline.since (← Clock.now)
    match ← within limit (client.recvSelector maxMessageSize.toUInt64) with
    | none => return none
    | some none =>
      pending.set []
      return some (.error .ended)
    | some (some data) =>
      pending.modify (· ++ data.toList)
      receiveMessage client pending deadline
  | (outcome, rest) =>
    pending.set rest
    return some outcome

/-- Wait for one message of a stream. -/
def receiveStream (client : Std.Async.TCP.Socket.Client) (pending : IO.Ref Octets)
    (peer : SocketAddress) (requestId : Int32) (limit : Duration) : IO (Except Error Octets) := do
  let deadline := ((← Clock.now).after? limit).getD .latest
  match ← guarded peer (receiveMessage client pending deadline) with
  | .error e => return .error e
  | .ok none => return .error (expired peer limit requestId)
  | .ok (some (.error fault)) => return .error (fault.error peer)
  | .ok (some (.ok data)) => return .ok data

/-- Open a connection; `none` if that takes too long. -/
def open? (client : Std.Async.TCP.Socket.Client) (peer : SocketAddress) (limit : Duration) :
    IO (Option Unit) :=
  let connect : Std.Async.Async (Option Unit) := do
    client.connect (toHost peer)
    return some ()
  let alarm : Std.Async.Async (Option Unit) := do
    Std.Async.sleep (milliseconds limit)
    return none
  (Std.Async.Async.race connect alarm).block

/-- A channel over TCP. -/
def stream (peer : SocketAddress) (limit : Duration) : IO (Except Error (Channel IO)) := do
  let client ← Std.Async.TCP.Socket.Client.mk
  match ← guarded peer (open? client peer limit) with
  | .error e => return .error e
  | .ok none => return .error (expired peer limit 0)
  | .ok (some ()) =>
    let pending ← IO.mkRef []
    return .ok {
      peer
      isStream := true
      send := fun data => guarded peer (client.send ⟨data.toArray⟩).block
      receive := receiveStream client pending peer
      now := Clock.now
      backlog := pure backlog }

/-! ## Network -/

/-- The network of the host. -/
def network : Network IO where
  addresses := addresses
  connect := fun protocol peer limit =>
    match protocol with
    | .udp => datagrams peer
    | .tcp => stream peer limit

end SnmpManager.Sockets
