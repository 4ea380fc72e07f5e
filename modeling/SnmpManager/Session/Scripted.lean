import SnmpManager.Session.Basic

/-!
# Scripted agents

An agent that answers from a list, whatever it is asked, and keeps what it was
sent. Its clock stands still, at whatever time.

- `Reply` is one entry of the list.
- `ScriptedAgent` is the state of the agent and of the session's id counter.
- `ScriptedAgent.session` is a session with it, in the state monad.

An agent whose list has run out is silent.
-/

namespace SnmpManager

/-- What a scripted agent does when a message is waited for. -/
inductive Reply where
  /-- Answer with these octets; a message among them gets the id of the last request. -/
  | answer (data : Octets)
  /-- Answer with exactly these octets. -/
  | verbatim (data : Octets)
  /-- Stay silent. -/
  | silence
  /-- Fail. -/
  | failure (text : String)
  deriving DecidableEq, Repr

/-- An agent that answers from a list. -/
structure ScriptedAgent where
  peer : SocketAddress
  isStream : Bool := false
  replies : List Reply := []
  /-- The messages received, in order. -/
  sent : List Octets := []
  /-- The id of the last message received, if that could be decoded. -/
  lastId : Option Int32 := none
  /-- The id for the next attempt. -/
  nextId : Int32 := 1
  /-- The time at which the clock stands. -/
  clock : Duration := .zero
  deriving DecidableEq, Repr

namespace ScriptedAgent

/-- The octets with another request id, if they are a message. -/
def withRequestId (requestId : Int32) (data : Octets) : Octets :=
  match Message.decode data with
  | .ok message => { message with pdu := { message.pdu with requestId } }.encode
  | .error _ => data

/-- Take in a message. -/
def accept (agent : ScriptedAgent) (data : Octets) : ScriptedAgent :=
  { agent with
    sent := agent.sent ++ [data]
    lastId := match Message.decode data with
      | .ok message => some message.pdu.requestId
      | .error _ => none }

/-- What a wait gets, apart from the timeout of a silent agent. -/
def outcome (agent : ScriptedAgent) (requestId : Int32) (limit : Duration) :
    Reply → Except Error Octets
  | .answer data =>
    match agent.lastId with
    | some id => .ok (withRequestId id data)
    | none => .ok data
  | .verbatim data => .ok data
  | .failure text => .error (.io (some agent.peer) (.other text))
  | .silence => .error (.timeout (some agent.peer) limit requestId 0)

/-- Take the next reply. -/
def reply (agent : ScriptedAgent) (requestId : Int32) (limit : Duration) :
    Except Error Octets × ScriptedAgent :=
  match agent.replies with
  | [] => (agent.outcome requestId limit .silence, agent)
  | next :: rest => (agent.outcome requestId limit next, { agent with replies := rest })

/-- The octets a reply carries. -/
def replyOctets : Reply → Octets
  | .answer data | .verbatim data => data
  | .silence | .failure _ => []

/-- More reports than a walk can make before the list of replies has run out: a binding takes
octets, and each reply leads to at most one report beside its bindings. -/
def reportBound (agent : ScriptedAgent) : Nat :=
  agent.replies.foldl (fun n reply => n + (replyOctets reply).length + 1) 4

/-- The channel to a scripted agent. -/
def channel (peer : SocketAddress) (isStream : Bool) : Channel (StateM ScriptedAgent) where
  peer := peer
  isStream := isStream
  send := fun data => modifyGet fun agent => (.ok (), agent.accept data)
  receive := fun requestId limit => modifyGet fun agent => agent.reply requestId limit
  now := return (← get).clock
  backlog := return (← get).replies.length

/-- Take the id for an attempt. -/
def takeId (agent : ScriptedAgent) : Int32 × ScriptedAgent :=
  (agent.nextId, { agent with nextId := nextRequestId agent.nextId })

/-- A session with a scripted agent. -/
def session (peer : SocketAddress) (isStream : Bool) (settings : SessionSettings) :
    Session (StateM ScriptedAgent) where
  channel := channel peer isStream
  settings := settings
  freshId := modifyGet takeId

end ScriptedAgent

end SnmpManager
