import SnmpManager.Message

/-!
# Channels

The way to one agent, for a program in any monad: sockets in `IO`, a script in a
state monad.

`Channel` sends octets, waits for octets and tells the time.
-/

namespace SnmpManager

/-- The way to one agent. -/
structure Channel (m : Type → Type) where
  /-- Where the agent is. -/
  peer : SocketAddress
  /-- Whether octets arrive in order or not at all, so that nothing is sent twice. -/
  isStream : Bool
  send : Octets → m (Except Error Unit)
  /-- Wait for one message, at most so long. The id is that of the attempt, for the error. -/
  receive : (requestId : Int32) → (limit : Duration) → m (Except Error Octets)
  /-- The time on a clock that never goes back. -/
  now : m Duration
  /-- A bound on how many messages can be received before a wait fails. -/
  backlog : m Nat

/-- Use a channel from another monad. -/
def Channel.lift {m n : Type → Type} (run : {α : Type} → m α → n α) (channel : Channel m) :
    Channel n where
  peer := channel.peer
  isStream := channel.isStream
  send := fun data => run (channel.send data)
  receive := fun requestId limit => run (channel.receive requestId limit)
  now := run channel.now
  backlog := run channel.backlog

end SnmpManager
