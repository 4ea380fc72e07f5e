import SnmpManager.Command.Config
import SnmpManager.Response
import SnmpManager.Session.Channel

/-!
# Sessions

Exchanges with one agent.

- `Session.execute` sends a request and waits for its answer. Where messages can
  get lost it tries again after a timeout, with a fresh request id each time.
- `Session.attempt` is one try: it settles the exchange, or it has expired. Only a
  wait can expire; a message that cannot be sent settles the exchange.
- `Session.await` is the wait of one attempt. Answers to other attempts are
  dropped and the wait goes on. Its deadline is fixed once the message was sent; if
  the clock cannot count to it, the program stops there.
- `Session.notify` sends a notification, which nobody answers.

A request the version or the counts do not allow is refused before anything is
sent and before an id is taken.
-/

namespace SnmpManager

/-- The id after another: ids are positive and start again after the largest. -/
def nextRequestId (id : Int32) : Int32 :=
  if id = Int32.maxValue then 1 else id + 1

/-- An open session with one agent. -/
structure Session (m : Type → Type) where
  channel : Channel m
  settings : SessionSettings
  /-- Take an id that no other attempt of the session has. -/
  freshId : m Int32

namespace Session

variable {m : Type → Type} [Monad m]

/-- The message for one attempt. -/
def message (settings : SessionSettings) (request : Request) (requestId : Int32) : Message :=
  ⟨settings.version, settings.community, request.pdu requestId⟩

/-- What an attempt waits for. -/
def expected (session : Session m) (request : Request) (requestId : Int32) : Expected :=
  { version := session.settings.version
    requestId
    requested := request.requested
    source := some session.channel.peer }

/-- The error of a wait that came to its end. -/
def expired (session : Session m) (requestId : Int32) : Error :=
  .timeout (some session.channel.peer) session.settings.timeout requestId 0

/-- Wait for an answer until the deadline, through at most `fuel` messages. -/
def await (session : Session m) (expected : Expected) (deadline : Duration) :
    (fuel : Nat) → m (Except Error Response)
  | 0 => return .error (session.expired expected.requestId)
  | fuel + 1 => do
    let remaining := deadline.since (← session.channel.now)
    if remaining = .zero then return .error (session.expired expected.requestId)
    else match ← session.channel.receive expected.requestId remaining with
      | .error e => return .error e
      | .ok data =>
        match interpret expected data with
        | .error e => return .error e
        | .ok (.answer response) => return .ok response
        | .ok (.stale _) => await session expected deadline fuel

/-- Whether a wait got no answer in time. -/
def timedOut : Except Error Response → Bool
  | .error e => e.isTimeout
  | .ok _ => false

/-- What comes of one attempt. -/
inductive Attempt where
  /-- The exchange is over, with an answer or an error. -/
  | settled (outcome : Except Error Response)
  /-- No answer came in time, so that another attempt may follow. -/
  | expired
  deriving Repr

/-- What the wait of an attempt makes of it. -/
def Attempt.ofWait (outcome : Except Error Response) : Attempt :=
  if timedOut outcome then .expired else .settled outcome

/-- What settles an attempt is what its wait came to. -/
theorem ofWait_eq_settled {waited outcome : Except Error Response}
    (h : Attempt.ofWait waited = .settled outcome) : waited = outcome := by
  rw [Attempt.ofWait] at h
  split at h <;> cases h
  rfl

/-- One attempt: its id and what came of it. -/
def attempt (session : Session m) (request : Request) : m (Int32 × Attempt) := do
  let requestId ← session.freshId
  match ← session.channel.send (message session.settings request requestId).encode with
  | .error e => return (requestId, .settled (.error e))
  | .ok () =>
    match (← session.channel.now).after? session.settings.timeout with
    | none => return (requestId, .settled (.error .clockOverflow))
    | some deadline =>
      let fuel := (← session.channel.backlog) + 1
      let expected := session.expected request requestId
      return (requestId, .ofWait (← session.await expected deadline fuel))

/-- The error of a request whose last attempt timed out. -/
def giveUp (session : Session m) (start : Duration) (requestId : Int32) (retries : Nat) :
    m (Except Error Response) := do
  let elapsed := (← session.channel.now).since start
  return .error (.timeout (some session.channel.peer) elapsed requestId retries)

/-- Attempts until one settles the exchange: one, and as many more as are `left` of the retries. -/
def attempts (session : Session m) (request : Request) (start : Duration) (retries : Nat) :
    (left : Nat) → m (Except Error Response)
  | 0 => do
    match ← session.attempt request with
    | (_, .settled outcome) => return outcome
    | (requestId, .expired) => session.giveUp start requestId retries
  | left + 1 => do
    match ← session.attempt request with
    | (_, .settled outcome) => return outcome
    | (_, .expired) => attempts session request start retries left

/-- How many attempts may follow the first. -/
def maxRetries (session : Session m) : Nat :=
  if session.channel.isStream then 0 else session.settings.retries.toNat

/-- Send a request and wait for its answer. -/
def execute (session : Session m) (request : Request) : m (Except Error Response) := do
  if !request.isAnswered then return .error (.usage .unconfirmed)
  else match request.check session.settings.version with
    | .error fault => return .error (.usage fault)
    | .ok () =>
      let start ← session.channel.now
      session.attempts request start session.maxRetries session.maxRetries

/-- Send a notification. -/
def notify (session : Session m) (uptime : UInt32) (trapOid : Oid) (bindings : List VarBind) :
    m (Except Error Unit) := do
  let request := Request.trap uptime trapOid bindings
  match request.check session.settings.version with
  | .error fault => return .error (.usage fault)
  | .ok () =>
    let requestId ← session.freshId
    session.channel.send (message session.settings request requestId).encode

/-- Use a session from another monad. -/
def lift {m n : Type → Type} (run : {α : Type} → m α → n α) (session : Session m) : Session n where
  channel := session.channel.lift run
  settings := session.settings
  freshId := run session.freshId

end Session

end SnmpManager
