import SnmpManager.Agent
import SnmpManager.Hostname
import SnmpManager.Session.Channel

/-!
# Networks

Where agents are found, in any monad.

- `Network` looks up hosts and opens channels.
- `Agent.connect` opens the channel to an agent.
- `Network.unreachable` is a host without any network: addresses that are
  written out are known and so is its own name, but there is no way to any of
  them.
-/

namespace SnmpManager

/-- Where agents are found. -/
structure Network (m : Type → Type) where
  /-- The addresses of a host. -/
  addresses : String → m (Except Error (List IpAddress))
  /-- Open a channel, within the given time. -/
  connect : Protocol → SocketAddress → Duration → m (Except Error (Channel m))

namespace Agent

variable {m : Type → Type} [Monad m]

/-- The address of an agent. -/
def resolve (network : Network m) (agent : Agent) : ExceptT Error m SocketAddress := do
  let addresses ← ExceptT.mk (network.addresses agent.host)
  liftExcept (agent.choose addresses)
where
  liftExcept {α : Type} (result : Except Error α) : ExceptT Error m α :=
    ExceptT.mk (pure result)

/-- The channel to an agent. -/
def connect (network : Network m) (agent : Agent) (limit : Duration) :
    ExceptT Error m (Channel m) := do
  let address ← agent.resolve network
  ExceptT.mk (network.connect agent.protocol address limit)

end Agent

/-- The addresses of a host where there is no name service. The loopback interface is there, and
its address has the only name that is known. -/
def Hostname.addressesAlone (host : String) : Except IoFault (List IpAddress) := do
  match ← Hostname.parse [("lo", 1)] host with
  | .address ip => return [ip]
  | .name text =>
    if text.map Char.toLower = "localhost".toList then return [.v4 ⟨127, 0, 0, 1⟩]
    else .error .nameNotResolved

/-- A host without any network. -/
def Network.unreachable {m : Type → Type} [Monad m] : Network m where
  addresses := fun host => pure ((Hostname.addressesAlone host).mapError (.io none))
  connect := fun _ address _ => pure (.error (.io (some address) .networkUnreachable))

end SnmpManager
