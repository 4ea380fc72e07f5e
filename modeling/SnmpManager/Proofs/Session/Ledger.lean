import Mathlib.Logic.Function.Iterate
import SnmpManager.Proofs.Session.Ensures
import SnmpManager.Session.Basic

/-!
# Sessions that keep a ledger

What a session does to the outside is seen by writing it down: `Ledger` holds,
beside the state of an arbitrary channel, the id counter, the ids taken and the
octets sent and received, in order. `Session.ledgered` is a session over any
channel at all that keeps such a ledger.

- `idsFrom first n`: the `n` ids a counter hands out from `first` on.
- `Ledger.advance`: a ledger after `count` attempts at one request.
- `Session.await_ensures`, `attempt_ensures`, `attempts_ensures`,
  `execute_ensures`, `notify_ensures`: each part of an exchange only advances
  the ledger, and an answer that is returned was received by that very exchange
  and interpreted against the last id taken.
-/

namespace SnmpManager

/-! ## Ids in a row -/

/-- The ids that a counter hands out from `first` on. -/
def idsFrom (first : Int32) (count : Nat) : List Int32 :=
  (List.range count).map fun k => nextRequestId^[k] first

@[simp] theorem length_idsFrom (first : Int32) (count : Nat) :
    (idsFrom first count).length = count := by
  simp [idsFrom]

/-- `idsFrom` hands out ids in a row, from wherever the counter is. -/
theorem idsFrom_add (first : Int32) (m n : Nat) :
    idsFrom first (m + n) = idsFrom first m ++ idsFrom (nextRequestId^[m] first) n := by
  rw [idsFrom, List.range_add, List.map_append, List.map_map]
  congr 2
  funext k
  rw [Function.comp_apply, Nat.add_comm, Function.iterate_add_apply]

theorem getLast?_idsFrom_succ (first : Int32) (count : Nat) :
    (idsFrom first (count + 1)).getLast? = some (nextRequestId^[count] first) := by
  simp [idsFrom, List.range_succ]

/-! ## Ledgers -/

/-- The state of a channel, and what went over it. -/
structure Ledger (σ : Type) where
  world : σ
  /-- The id for the next attempt. -/
  nextId : Int32
  /-- The ids taken, in order. -/
  ids : List Int32 := []
  /-- The messages sent, in order. -/
  sent : List Octets := []
  /-- The messages received, in order. -/
  received : List Octets := []

variable {σ : Type}

namespace Ledger

/-- Act on the channel's own state, and write nothing down. -/
def onWorld {α : Type} (action : StateM σ α) : StateM (Ledger σ) α :=
  fun ledger =>
    let (a, world) := action ledger.world
    (a, { ledger with world })

/-- Take an id and write it down. -/
def takeId : StateM (Ledger σ) Int32 :=
  fun ledger => (ledger.nextId,
    { ledger with nextId := nextRequestId ledger.nextId, ids := ledger.ids ++ [ledger.nextId] })

/-- Write down what is sent. -/
def noteSent (data : Octets) : StateM (Ledger σ) Unit :=
  fun ledger => ((), { ledger with sent := ledger.sent ++ [data] })

/-- Write down what was received. -/
def noteReceived (outcome : Except Error Octets) : StateM (Ledger σ) Unit :=
  fun ledger => ((), match outcome with
    | .ok data => { ledger with received := ledger.received ++ [data] }
    | .error _ => ledger)

/-- The channel, with everything that goes over it written down. -/
def channel (inner : Channel (StateM σ)) : Channel (StateM (Ledger σ)) :=
  { inner.lift onWorld with
    send := fun data => do
      noteSent data
      onWorld (inner.send data)
    receive := fun requestId limit => do
      let outcome ← onWorld (inner.receive requestId limit)
      noteReceived outcome
      return outcome }

/-- The ledger after `count` attempts at a request, during which the channel went on to `world`
and delivered `received`. -/
def advance (ledger : Ledger σ) (settings : SessionSettings) (request : Request) (count : Nat)
    (world : σ) (received : List Octets) : Ledger σ where
  world := world
  nextId := nextRequestId^[count] ledger.nextId
  ids := ledger.ids ++ idsFrom ledger.nextId count
  sent := ledger.sent ++ (idsFrom ledger.nextId count).map fun id =>
    (Session.message settings request id).encode
  received := ledger.received ++ received

/-- Attempts after attempts are attempts, and so is what was received. -/
theorem advance_advance (ledger : Ledger σ) (settings : SessionSettings) (request : Request)
    (m n : Nat) (world world' : σ) (received received' : List Octets) :
    (ledger.advance settings request m world received).advance settings request n world' received'
      = ledger.advance settings request (m + n) world' (received ++ received') := by
  have next : nextRequestId^[m + n] ledger.nextId
      = nextRequestId^[n] (nextRequestId^[m] ledger.nextId) := by
    rw [Nat.add_comm, Function.iterate_add_apply]
  simp only [advance, idsFrom_add, List.map_append, List.append_assoc, next]

/-- One attempt takes one id and sends one message: this is how a ledger is advanced by one. -/
theorem advance_one (ledger : Ledger σ) (settings : SessionSettings) (request : Request)
    (world : σ) :
    ledger.advance settings request 1 world [] =
      { world, nextId := nextRequestId ledger.nextId, ids := ledger.ids ++ [ledger.nextId]
        sent := ledger.sent ++ [(Session.message settings request ledger.nextId).encode]
        received := ledger.received } := by
  simp [advance, idsFrom]

theorem advance_zero (ledger : Ledger σ) (settings : SessionSettings) (request : Request) :
    ledger.advance settings request 0 ledger.world [] = ledger := by
  simp [advance, idsFrom]

end Ledger

namespace Session

/-- A session that keeps a ledger of what goes over its channel. -/
def ledgered (inner : Channel (StateM σ)) (settings : SessionSettings) :
    Session (StateM (Ledger σ)) where
  channel := Ledger.channel inner
  settings := settings
  freshId := Ledger.takeId

/-! ## What one exchange does to the ledger -/

variable (inner : Channel (StateM σ)) (settings : SessionSettings)

/-- Looking at the clock and at the backlog leaves everything but the channel's own state. -/
theorem onWorld_ensures {α : Type} (action : StateM σ α) (ledger : Ledger σ) :
    Ensures (Ledger.onWorld action) ledger fun _ after => ∃ world, after = { ledger with world } :=
  ⟨_, rfl⟩

/-- What `receive` yields is written down. -/
theorem receive_ensures (requestId : Int32) (limit : Duration) (ledger : Ledger σ) :
    Ensures ((ledgered inner settings).channel.receive requestId limit) ledger
      fun outcome after => ∃ world, after = { ledger with
        world, received := ledger.received ++ outcome.toOption.toList } := by
  refine ensures_bind (ensures_mono (onWorld_ensures _ ledger) ?_)
  rintro outcome _ ⟨world, rfl⟩
  refine ⟨world, ?_⟩
  cases outcome with
  | error e =>
    show Ledger.mk _ _ _ _ _ = Ledger.mk _ _ _ _ (ledger.received ++ [])
    rw [List.append_nil]
  | ok data => rfl

/-- An id is taken and the message sent under it, whether or not it gets through. -/
theorem send_ensures (request : Request) (ledger : Ledger σ) :
    Ensures (ledgered inner settings).freshId ledger fun id between => id = ledger.nextId ∧
      Ensures ((ledgered inner settings).channel.send (message settings request id).encode) between
        fun _ after => ∃ world, after = ledger.advance settings request 1 world [] :=
  ⟨rfl, _, (ledger.advance_one settings request _).symm⟩

/-- What a wait leaves behind: it takes no id and sends nothing, and the answer it returns was
received meanwhile. -/
def Waited (expected : Expected) (before : Ledger σ) (outcome : Except Error Response)
    (after : Ledger σ) : Prop :=
  ∃ world received, after = { before with world, received := before.received ++ received } ∧
    ∀ response, outcome = .ok response →
      ∃ data ∈ received, interpret expected data = .ok (.answer response)

theorem waited_error (expected : Expected) (before : Ledger σ) (world : σ) (error : Error) :
    Waited expected before (.error error) { before with world } :=
  ⟨world, [], by rw [List.append_nil], fun _ h => by cases h⟩

/-- Messages received before a wait goes on were received during it, so what is `Waited` after them
was waited with them. -/
theorem Waited.after_receiving {expected : Expected} {before after : Ledger σ}
    {outcome : Except Error Response} (world : σ) {data : Octets}
    (h : Waited expected { before with world, received := before.received ++ [data] } outcome
      after) : Waited expected before outcome after := by
  obtain ⟨world, received, rfl, answered⟩ := h
  refine ⟨world, data :: received, ?_, fun response ok => ?_⟩
  · rw [List.append_assoc, List.singleton_append]
  · obtain ⟨answer, mem, meaning⟩ := answered response ok
    exact ⟨answer, List.mem_cons_of_mem _ mem, meaning⟩

/-- By induction on the fuel, with `Waited.after_receiving` for each message that is dropped. -/
theorem await_ensures (expected : Expected) (deadline : Duration) (fuel : Nat)
    (ledger : Ledger σ) :
    Ensures ((ledgered inner settings).await expected deadline fuel) ledger
      (Waited expected ledger) := by
  induction fuel generalizing ledger with
  | zero => exact waited_error expected ledger ledger.world _
  | succ fuel ih =>
    rw [await]
    refine ensures_bind (ensures_mono (onWorld_ensures _ ledger) ?_)
    rintro now _ ⟨world, rfl⟩
    dsimp only
    split
    case isTrue => exact waited_error expected ledger world _
    case isFalse =>
      refine ensures_bind (ensures_mono (receive_ensures inner settings _ _ _) ?_)
      rintro outcome _ ⟨world, rfl⟩
      cases outcome with
      | error e =>
        simp only [Except.toOption, Option.toList_none, List.append_nil]
        exact waited_error expected ledger world e
      | ok data =>
        simp only [Except.toOption, Option.toList_some]
        -- what comes after this message is a wait of its own
        cases meaning : interpret expected data with
        | error e =>
          exact (waited_error expected { ledger with
            world, received := ledger.received ++ [data] } world e).after_receiving world
        | ok interpretation =>
          cases interpretation with
          | answer response =>
            refine ⟨world, [data], rfl, ?_⟩
            rintro _ ⟨⟩
            exact ⟨data, List.mem_singleton_self data, meaning⟩
          | stale id => exact (ih _).after_receiving world

/-- What one attempt leaves behind: one id is taken and one message sent under it. -/
def Attempted (session : Session (StateM (Ledger σ))) (request : Request) (before : Ledger σ)
    (result : Int32 × Attempt) (after : Ledger σ) : Prop :=
  ∃ world received, after = before.advance session.settings request 1 world received ∧
    ∀ response, result.2 = .settled (.ok response) →
      ∃ data ∈ received,
        interpret (session.expected request before.nextId) data = .ok (.answer response)

/-- `attempt` is one step of the ledger, and what it waits for is interpreted against the id it
took. -/
theorem attempt_ensures (request : Request) (ledger : Ledger σ) :
    Ensures ((ledgered inner settings).attempt request) ledger
      (Attempted (ledgered inner settings) request ledger) := by
  rw [attempt]
  refine ensures_bind (ensures_mono (send_ensures inner settings request ledger) ?_)
  rintro _ between ⟨rfl, sending⟩
  refine ensures_bind (ensures_mono sending ?_)
  rintro outcome _ ⟨world, rfl⟩
  cases outcome with
  | error e => exact ⟨world, [], rfl, fun _ h => by cases h⟩
  | ok _ =>
    refine ensures_bind (ensures_mono (onWorld_ensures _ _) ?_)
    rintro now _ ⟨world', rfl⟩
    split
    -- there is no wait without a deadline, and so nothing is received
    case h_1 => exact ⟨world', [], rfl, fun _ h => by cases h⟩
    case h_2 deadline _ =>
      refine ensures_bind (ensures_mono (onWorld_ensures _ _) ?_)
      rintro backlog _ ⟨ready, rfl⟩
      refine ensures_bind (ensures_mono (await_ensures inner settings _ _ _ _) ?_)
      rintro outcome _ ⟨later, received, rfl, answered⟩
      refine ⟨later, received, ?_, fun response ok => answered response (ofWait_eq_settled ok)⟩
      show Ledger.mk _ _ _ _ ((ledger.received ++ []) ++ received) = _
      rw [List.append_nil]
      rfl

/-- What the attempts at one request leave behind: the answer that is returned was received during
the last of them, and interpreted against its id. -/
def Exchanged (session : Session (StateM (Ledger σ))) (request : Request) (before : Ledger σ)
    (outcome : Except Error Response) (after : Ledger σ) : Prop :=
  ∃ count world received, after = before.advance session.settings request count world received ∧
    ∀ response, outcome = .ok response →
      ∃ retries, count = retries + 1 ∧ ∃ data ∈ received,
        interpret (session.expected request (nextRequestId^[retries] before.nextId)) data
          = .ok (.answer response)

/-- What is `Attempted` and settles an exchange is all of it. -/
theorem Attempted.exchanged {session : Session (StateM (Ledger σ))} {request : Request}
    {before after : Ledger σ} {requestId : Int32} {outcome : Except Error Response}
    (h : Attempted session request before (requestId, .settled outcome) after) :
    Exchanged session request before outcome after := by
  obtain ⟨world, received, rfl, answered⟩ := h
  refine ⟨1, world, received, rfl, fun response ok => ⟨0, rfl, answered response ?_⟩⟩
  exact congrArg Attempt.settled ok

/-- What was `Exchanged` after an attempt was exchanged together with it. -/
theorem Exchanged.after_attempt {session : Session (StateM (Ledger σ))} {request : Request}
    {before between after : Ledger σ} {result : Int32 × Attempt}
    {outcome : Except Error Response} (first : Attempted session request before result between)
    (others : Exchanged session request between outcome after) :
    Exchanged session request before outcome after := by
  obtain ⟨world, received, rfl, -⟩ := first
  obtain ⟨count, later, more, rfl, answered⟩ := others
  refine ⟨1 + count, later, received ++ more, Ledger.advance_advance .., fun response ok => ?_⟩
  obtain ⟨retries, rfl, data, mem, meaning⟩ := answered response ok
  refine ⟨retries + 1, Nat.add_comm .., data, List.mem_append_right _ mem, ?_⟩
  rwa [Function.iterate_succ_apply]

/-- What is `Attempted` without success may be all of an exchange that comes to nothing. -/
theorem Attempted.gaveUp {session : Session (StateM (Ledger σ))} {request : Request}
    {before after : Ledger σ} {result : Int32 × Attempt} {world : σ} {error : Error}
    (h : Attempted session request before result after) :
    Exchanged session request before (.error error) { after with world } := by
  obtain ⟨_, received, rfl, -⟩ := h
  exact ⟨1, world, received, rfl, fun _ h => by cases h⟩

/-- By induction on the attempts that are left: each one is `Attempted`, and settles the exchange,
gives up or leaves it to the others. -/
theorem attempts_ensures (request : Request) (start : Duration) (retries left : Nat)
    (ledger : Ledger σ) :
    Ensures ((ledgered inner settings).attempts request start retries left) ledger
      (Exchanged (ledgered inner settings) request ledger) := by
  induction left generalizing ledger with
  | zero =>
    rw [attempts]
    refine ensures_bind (ensures_mono (attempt_ensures inner settings request ledger) ?_)
    rintro ⟨requestId, outcome | _⟩ after attempted
    case settled => exact attempted.exchanged
    case expired =>
      refine ensures_bind (ensures_mono (onWorld_ensures _ after) ?_)
      rintro now _ ⟨world, rfl⟩
      exact attempted.gaveUp
  | succ left ih =>
    rw [attempts]
    refine ensures_bind (ensures_mono (attempt_ensures inner settings request ledger) ?_)
    rintro ⟨requestId, outcome | _⟩ after attempted
    case settled => exact attempted.exchanged
    -- an expired wait is what the other attempts are for; anything else is final
    case expired => exact ensures_mono (ih after) fun _ _ others => others.after_attempt attempted

/-- Of a request that is refused nothing is sent, and no answer comes of it. -/
theorem exchanged_refused (session : Session (StateM (Ledger σ))) (request : Request)
    (ledger : Ledger σ) (world : σ) (error : Error) :
    Exchanged session request ledger (.error error) { ledger with world } := by
  refine ⟨0, world, [], ?_, fun _ h => by cases h⟩
  simp [Ledger.advance, idsFrom]

/-- `execute` is refused, or it is its attempts. -/
theorem execute_ensures (request : Request) (ledger : Ledger σ) :
    Ensures ((ledgered inner settings).execute request) ledger
      (Exchanged (ledgered inner settings) request ledger) := by
  -- the two refusals come before any id is taken
  rw [execute]
  split
  case isTrue => exact exchanged_refused _ request ledger ledger.world _
  case isFalse =>
    split
    case h_1 => exact exchanged_refused _ request ledger ledger.world _
    case h_2 =>
      refine ensures_bind (ensures_mono (onWorld_ensures _ ledger) ?_)
      rintro start _ ⟨world, rfl⟩
      exact attempts_ensures inner settings request start _ _ _

/-- `notify` takes one id and sends one message, or nothing if it is refused; nothing is received
for it. -/
theorem notify_ensures (uptime : UInt32) (trapOid : Oid) (bindings : List VarBind)
    (ledger : Ledger σ) :
    Ensures ((ledgered inner settings).notify uptime trapOid bindings) ledger fun _ after =>
      ∃ count world, after
        = ledger.advance settings (.trap uptime trapOid bindings) count world [] := by
  rw [notify]
  split
  case h_1 => exact ⟨0, ledger.world, (ledger.advance_zero ..).symm⟩
  case h_2 =>
    refine ensures_bind (ensures_mono (send_ensures inner settings (.trap uptime trapOid bindings)
      ledger) ?_)
    rintro _ between ⟨rfl, sending⟩
    exact ensures_mono sending fun _ _ ⟨world, after⟩ => ⟨1, world, after⟩

end Session

end SnmpManager
