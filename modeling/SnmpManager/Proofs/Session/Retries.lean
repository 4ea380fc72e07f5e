import SnmpManager.Proofs.Session.Ensures
import SnmpManager.Proofs.Session.Interpretation
import SnmpManager.Proofs.Session.Ledger
import SnmpManager.Session.Scripted

/-!
# How attempts are spent

An agent that answers from a list says nothing, or something about another
attempt, until it says something that decides the exchange. Each silence costs
one attempt, stale replies cost none, and nothing but silence makes a session try
again (`ScriptedAgent.execute_accounts`).

- `Expected.Stale`, `Settles`: a reply to some other attempt, and what any other
  reply comes to.
- `ScriptedAgent.Decides`: a reply that is neither silence nor stale.
- `ScriptedAgent.FirstDeciding`: the place of the first such reply in a script.
- `ScriptedAgent.Spent`: what so many attempts leave of a script.
-/

namespace SnmpManager

/-! ## What a reply comes to -/

/-- A response of the right version to some other attempt. -/
def Expected.Stale (expected : Expected) (data : Octets) : Prop :=
  ∃ message, Message.decode data = .ok message ∧ message.version = expected.version ∧
    message.pdu.kind = .response ∧ message.pdu.requestId ≠ expected.requestId

/-- What a wait comes to when what it received is not `Stale`: a failure of the channel, octets that
are no message, a message of another version or kind, or an answer. -/
inductive Settles (expected : Expected) :
    Except Error Octets → Except Error Response → Prop where
  | failure (error : Error) : Settles expected (.error error) (.error error)
  | unreadable {data : Octets} {error : DecodeError}
    (decoded : Message.decode data = .error error) :
    Settles expected (.ok data) (.error (.decode error))
  | version {data : Octets} {message : Message} (decoded : Message.decode data = .ok message)
    (differs : message.version ≠ expected.version) :
    Settles expected (.ok data) (.error (.versionMismatch expected.version message.version))
  | kind {data : Octets} {message : Message} (decoded : Message.decode data = .ok message)
    (version : message.version = expected.version) (differs : message.pdu.kind ≠ .response) :
    Settles expected (.ok data) (.error (.unexpectedPdu message.pdu.kind.tag))
  | answer {data : Octets} {message : Message} (decoded : Message.decode data = .ok message)
    (version : message.version = expected.version) (kind : message.pdu.kind = .response)
    (requestId : message.pdu.requestId = expected.requestId) :
    Settles expected (.ok data) (.ok (expected.answer message))

/-- No message that is received `Settles` a wait with an overflow of the clock. -/
theorem not_settles_overflow (expected : Expected) (data : Octets) :
    ¬ Settles expected (.ok data) (.error .clockOverflow) :=
  nofun

instance (expected : Expected) (data : Octets) : Decidable (expected.Stale data) :=
  match decoded : Message.decode data with
  | .error _ => isFalse fun ⟨message, ok, _⟩ => by
    rw [decoded] at ok
    cases ok
  | .ok message => decidable_of_iff (message.version = expected.version ∧
      message.pdu.kind = .response ∧ message.pdu.requestId ≠ expected.requestId)
    ⟨fun h => ⟨message, decoded, h⟩, fun ⟨other, ok, h⟩ => by
      rw [decoded] at ok
      cases ok
      exact h⟩

/-- A `Stale` reply is sorted out by `interpret` under the id it carries, and the wait goes on. -/
theorem interpret_of_stale {expected : Expected} {data : Octets} (h : expected.Stale data) :
    ∃ requestId, interpret expected data = .ok (.stale requestId) := by
  obtain ⟨message, decoded, version, kind, other⟩ := h
  refine ⟨message.pdu.requestId, ?_⟩
  rw [interpret, decoded]
  dsimp only
  rw [if_neg (not_not_intro version), if_neg (not_not_intro kind), if_pos other]

/-- What is not `Stale` settles a wait: `interpret` fails, though not with a timeout, or finds the
answer. -/
theorem settles_of_not_stale {expected : Expected} {data : Octets} (h : ¬ expected.Stale data) :
    (∃ error, interpret expected data = .error error ∧ error.isTimeout = false ∧
      Settles expected (.ok data) (.error error)) ∨
    ∃ response, interpret expected data = .ok (.answer response) ∧
      Settles expected (.ok data) (.ok response) := by
  cases decoded : Message.decode data with
  | error e =>
    refine .inl ⟨.decode e, ?_, rfl, .unreadable decoded⟩
    rw [interpret, decoded]
  | ok message =>
    by_cases version : message.version = expected.version
    · by_cases kind : message.pdu.kind = .response
      · have own : message.pdu.requestId = expected.requestId :=
          Decidable.byContradiction fun other => h ⟨message, decoded, version, kind, other⟩
        refine .inr ⟨expected.answer message, ?_, .answer decoded version kind own⟩
        exact interpret_eq_answer_iff.mpr ⟨message, decoded, version, kind, own, rfl⟩
      · refine .inl ⟨.unexpectedPdu message.pdu.kind.tag, ?_, rfl, .kind decoded version kind⟩
        rw [interpret, decoded]
        dsimp only
        rw [if_neg (not_not_intro version), if_pos kind]
    · refine .inl ⟨.versionMismatch expected.version message.version, ?_, rfl,
        .version decoded version⟩
      rw [interpret, decoded]
      dsimp only
      rw [if_pos version]

namespace ScriptedAgent

/-! ## The places of a script -/

section

variable (peer : SocketAddress) (settings : SessionSettings) (request : Request)

/-- What the attempt under some id receives where the script has this reply. -/
def arrival (requestId : Int32) (reply : Reply) : Except Error Octets :=
  let agent := accept { peer, replies := [] } (Session.message settings request requestId).encode
  agent.outcome requestId settings.timeout reply

/-- What the attempt under some id waits for. -/
def awaited (requestId : Int32) : Expected where
  version := settings.version
  requestId := requestId
  requested := request.requested
  source := some peer

/-- A reply that is neither silence nor stale to the attempt under some id. -/
def Decides (requestId : Int32) (reply : Reply) : Prop :=
  reply ≠ .silence ∧ ∀ data, arrival peer settings request requestId reply = .ok data →
    ¬ (awaited peer settings request requestId).Stale data

instance (requestId : Int32) (reply : Reply) :
    Decidable (Decides peer settings request requestId reply) :=
  match arrives : arrival peer settings request requestId reply with
  | .error _ => decidable_of_iff (reply ≠ .silence)
    ⟨fun h => ⟨h, fun data ok => by
      rw [arrives] at ok
      cases ok⟩, And.left⟩
  | .ok data => decidable_of_iff (reply ≠ .silence ∧
      ¬ (awaited peer settings request requestId).Stale data)
    ⟨fun h => ⟨h.1, fun other ok => by
      rw [arrives] at ok
      cases ok
      exact h.2⟩, fun h => ⟨h.1, h.2 data arrives⟩⟩

/-- How many attempts these replies leave without an answer. -/
def silences (replies : List Reply) : Nat :=
  replies.count .silence

/-- The id of the attempt in progress after these replies, where the first is under `first`. -/
def idAfter (first : Int32) (replies : List Reply) : Int32 :=
  nextRequestId^[silences replies] first

/-- The first reply of a script that decides, what comes before it and what comes after. -/
structure FirstDeciding (first : Int32) (script before : List Reply) (reply : Reply)
    (rest : List Reply) : Prop where
  script : script = before ++ reply :: rest
  undecided : ∀ earlier passed later, before = earlier ++ passed :: later →
    ¬ Decides peer settings request (idAfter first earlier) passed
  decides : Decides peer settings request (idAfter first before) reply

/-- What is left of a script after so many silences. -/
def afterSilences : (count : Nat) → List Reply → List Reply
  | 0, script => script
  | _ + 1, [] => []
  | count + 1, .silence :: rest => afterSilences count rest
  | count + 1, _ :: rest => afterSilences (count + 1) rest

/-- An agent that was asked so many times, each time under an id of its own, and has come to some
place in its script. -/
structure Spent (attempts : Nat) (rest : List Reply) (before after : ScriptedAgent) : Prop where
  replies : after.replies = rest
  sent : after.sent = before.sent ++ (idsFrom before.nextId attempts).map fun requestId =>
    (Session.message settings request requestId).encode
  nextId : after.nextId = nextRequestId^[attempts] before.nextId

end

/-! ## One wait -/

section

variable (peer : SocketAddress) (isStream : Bool) (settings : SessionSettings) (request : Request)

/-- What is left of the wait of an attempt. -/
def wait (deadline : Duration) (requestId : Int32) (fuel : Nat) :
    StateM ScriptedAgent (Except Error Response) :=
  (session peer isStream settings).await (awaited peer settings request requestId) deadline fuel

/-- The agent, whose clock stands at some time, has taken in the message of the attempt under some
id, and no other since. -/
structure Waiting (clock : Duration) (requestId : Int32) (agent : ScriptedAgent) : Prop where
  isPeer : agent.peer = peer
  lastId : agent.lastId =
    (accept { peer, replies := [] } (Session.message settings request requestId).encode).lastId
  nextId : agent.nextId = nextRequestId requestId
  atClock : agent.clock = clock

/-- A `wait` that is not over receives the next reply; the fuel counts the replies. -/
theorem run_wait_succ (waits : settings.timeout ≠ .zero) (requestId : Int32) (fuel : Nat)
    (agent after : ScriptedAgent) (outcome : Except Error Octets) {deadline : Duration}
    (reach : agent.clock.after? settings.timeout = some deadline) :
    agent.reply requestId settings.timeout = (outcome, after) →
    (wait peer isStream settings request deadline requestId (fuel + 1)).run agent =
      match outcome with
      | .error e => (.error e, after)
      | .ok data =>
        match interpret (awaited peer settings request requestId) data with
        | .error e => (.error e, after)
        | .ok (.answer response) => (.ok response, after)
        | .ok (.stale _) =>
          (wait peer isStream settings request deadline requestId fuel).run after := by
  intro received
  have remaining : deadline.since agent.clock = settings.timeout := Duration.since_of_after? reach
  have now : (session peer isStream settings).channel.now.run agent = (agent.clock, agent) := rfl
  have receive : ((session peer isStream settings).channel.receive
    (awaited peer settings request requestId).requestId settings.timeout).run agent
      = (outcome, after) := received
  rw [wait, Session.await, run_bind_of now, remaining]
  simp only [if_neg waits]
  rw [run_bind_of receive]
  cases outcome with
  | error e => rfl
  | ok data =>
    dsimp only
    cases interpret _ data with
    | error e => rfl
    | ok interpretation => cases interpretation <;> rfl

end

variable {peer : SocketAddress} {settings : SessionSettings} {request : Request}
  {clock deadline : Duration} {requestId : Int32} {agent : ScriptedAgent}

/-- What an agent says to an attempt it is `Waiting` for depends on the message that it took in
last. -/
theorem Waiting.outcome_eq (h : Waiting peer settings request clock requestId agent)
    (reply : Reply) :
    agent.outcome requestId settings.timeout reply
      = arrival peer settings request requestId reply := by
  cases reply <;> simp only [arrival, outcome, h.isPeer, h.lastId] <;> rfl

section

variable (isStream : Bool) (waits : settings.timeout ≠ .zero)
  (reach : clock.after? settings.timeout = some deadline)
  (waiting : Waiting peer settings request clock requestId agent)

include waits reach waiting

/-- Silence, like the end of the script, ends a wait. -/
theorem run_wait_of_silence {rest : List Reply}
    (next : agent.replies = .silence :: rest ∨ agent.replies = [] ∧ rest = []) (fuel : Nat) :
    ∃ error : Error, error.isTimeout = true ∧
      (wait peer isStream settings request deadline requestId (fuel + 1)).run agent
        = (.error error, { agent with replies := rest }) := by
  have received : agent.reply requestId settings.timeout
      = (.error (.timeout (some peer) settings.timeout requestId 0),
        { agent with replies := rest }) := by
    obtain ⟨isPeer, -, -, -⟩ := waiting
    obtain ⟨agentPeer, _, replies, _, _, _, _⟩ := agent
    obtain rfl : agentPeer = peer := isPeer
    obtain rfl | ⟨rfl, rfl⟩ := next
    · rfl
    · rfl
  exact ⟨_, rfl, run_wait_succ peer isStream settings request waits _ fuel _ _ _
    (waiting.atClock ▸ reach) received⟩

/-- A `Stale` reply is dropped. -/
theorem run_wait_of_stale {reply : Reply} {rest : List Reply} {data : Octets}
    (next : agent.replies = reply :: rest)
    (arrives : arrival peer settings request requestId reply = .ok data)
    (stale : (awaited peer settings request requestId).Stale data) (fuel : Nat) :
    (wait peer isStream settings request deadline requestId (fuel + 1)).run agent
      = (wait peer isStream settings request deadline requestId fuel).run
        { agent with replies := rest } := by
  have received : agent.reply requestId settings.timeout
      = (.ok data, { agent with replies := rest }) := by
    rw [ScriptedAgent.reply, next, ← arrives, ← waiting.outcome_eq]
  obtain ⟨other, meaning⟩ := interpret_of_stale stale
  rw [run_wait_succ peer isStream settings request waits _ fuel _ _ _
    (waiting.atClock ▸ reach) received]
  simp only [meaning]

/-- A reply that `Decides` settles a wait, and is no timeout. -/
theorem run_wait_of_decides {reply : Reply} {rest : List Reply}
    (next : agent.replies = reply :: rest)
    (decides : Decides peer settings request requestId reply) (fuel : Nat) :
    ∃ outcome, Session.timedOut outcome = false ∧
      Settles (awaited peer settings request requestId)
        (arrival peer settings request requestId reply) outcome ∧
      (wait peer isStream settings request deadline requestId (fuel + 1)).run agent
        = (outcome, { agent with replies := rest }) := by
  obtain ⟨notSilence, notStale⟩ := decides
  have received : agent.reply requestId settings.timeout
      = (arrival peer settings request requestId reply, { agent with replies := rest }) := by
    rw [ScriptedAgent.reply, next, ← waiting.outcome_eq]
  have run := run_wait_succ peer isStream settings request waits _ fuel _ _ _
    (waiting.atClock ▸ reach) received
  cases arrives : arrival peer settings request requestId reply with
  | error e =>
    rw [arrives] at run
    refine ⟨.error e, ?_, .failure e, run⟩
    cases reply with
    | silence => exact absurd rfl notSilence
    | failure text =>
      cases arrives
      rfl
    | verbatim data => cases arrives
    | answer data =>
      rw [arrival, outcome] at arrives
      split at arrives <;> cases arrives
  | ok data =>
    rw [arrives] at run
    obtain ⟨error, meaning, notTimeout, settles⟩ | ⟨response, meaning, settles⟩ :=
      settles_of_not_stale (notStale data arrives)
    · simp only [meaning] at run
      exact ⟨.error error, notTimeout, settles, run⟩
    · simp only [meaning] at run
      exact ⟨.ok response, rfl, settles, run⟩

end

/-! ## One attempt after another -/

section

variable (peer : SocketAddress) (isStream : Bool) (settings : SessionSettings) (request : Request)

variable (clock deadline : Duration)

/-- What follows an attempt that so many others may follow, if it got no answer in time. -/
def another (retries : Nat) (requestId : Int32) :
    (left : Nat) → StateM ScriptedAgent (Except Error Response)
  | 0 => (session peer isStream settings).giveUp clock requestId retries
  | left + 1 => (session peer isStream settings).attempts request clock retries left

/-- What is left of an exchange in the wait of an attempt that so many others may follow. -/
def exchange (retries left : Nat) (requestId : Int32) (fuel : Nat) :
    StateM ScriptedAgent (Except Error Response) := do
  let outcome ← wait peer isStream settings request deadline requestId fuel
  if Session.timedOut outcome then
    another peer isStream settings request clock retries requestId left
  else return outcome

/-- The agent after it was asked once more. -/
def asked (agent : ScriptedAgent) : ScriptedAgent :=
  agent.takeId.2.accept (Session.message settings request agent.nextId).encode

theorem waiting_asked (agent : ScriptedAgent) (isPeer : agent.peer = peer)
    (atClock : agent.clock = clock) :
    Waiting peer settings request clock agent.nextId (asked settings request agent) :=
  ⟨isPeer, rfl, rfl, atClock⟩

/-- `attempt` asks. Then it waits, if its deadline can be fixed; if not, the program stops. -/
theorem run_attempt (agent : ScriptedAgent) :
    ((session peer isStream settings).attempt request).run agent =
      match agent.clock.after? settings.timeout with
      | none => ((agent.nextId, .settled (.error .clockOverflow)), asked settings request agent)
      | some deadline =>
        let (outcome, after) := (wait peer isStream settings request deadline agent.nextId
          (agent.replies.length + 1)).run (asked settings request agent)
        ((agent.nextId, .ofWait outcome), after) := by
  have freshId : (session peer isStream settings).freshId.run agent
      = (agent.nextId, agent.takeId.2) := rfl
  have send : ((session peer isStream settings).channel.send
      (Session.message settings request agent.nextId).encode).run agent.takeId.2
        = (.ok (), asked settings request agent) := rfl
  have now : (session peer isStream settings).channel.now.run (asked settings request agent)
      = (agent.clock, asked settings request agent) := rfl
  rw [Session.attempt, run_bind_of freshId, show (session peer isStream settings).settings
    = settings from rfl, run_bind_of send]
  dsimp only
  rw [run_bind_of now]
  cases agent.clock.after? settings.timeout <;> rfl

variable {peer isStream settings request clock deadline}

/-- What comes of `attempts` is what comes of the wait of the first, and of what follows it. -/
theorem run_attempts {agent : ScriptedAgent}
    (reach : agent.clock.after? settings.timeout = some deadline) (retries left : Nat) :
    ((session peer isStream settings).attempts request clock retries left).run agent
      = (exchange peer isStream settings request clock deadline retries left agent.nextId
          (agent.replies.length + 1)).run (asked settings request agent) := by
  cases waited : (wait peer isStream settings request deadline agent.nextId
    (agent.replies.length + 1)).run (asked settings request agent) with
  | mk outcome after =>
    have attempted := run_attempt peer isStream settings request agent
    rw [reach] at attempted
    simp only [waited] at attempted
    rw [exchange, run_bind_of waited]
    cases left with
    | zero =>
      rw [Session.attempts, run_bind_of attempted, Session.Attempt.ofWait]
      cases Session.timedOut outcome <;> rfl
    | succ left =>
      rw [Session.attempts, run_bind_of attempted, Session.Attempt.ofWait]
      cases Session.timedOut outcome <;> rfl

/-- Where the deadline of the first of some `attempts` cannot be fixed, there is no other. -/
theorem run_attempts_of_overflow {agent : ScriptedAgent}
    (beyond : agent.clock.after? settings.timeout = none) {start : Duration} {retries left : Nat} :
    ((session peer isStream settings).attempts request start retries left).run agent
      = (.error .clockOverflow, asked settings request agent) := by
  have attempted := run_attempt peer isStream settings request agent
  rw [beyond] at attempted
  cases left with
  | zero =>
    rw [Session.attempts, run_bind_of attempted]
    rfl
  | succ left =>
    rw [Session.attempts, run_bind_of attempted]
    rfl

end

/-- An `exchange` goes on as its `wait` does. -/
theorem run_exchange_congr {isStream : Bool} {after : ScriptedAgent} {fuel fuel' : Nat}
    (retries left : Nat)
    (same : (wait peer isStream settings request deadline requestId fuel).run agent
      = (wait peer isStream settings request deadline requestId fuel').run after) :
    (exchange peer isStream settings request clock deadline retries left requestId fuel).run agent
      = (exchange peer isStream settings request clock deadline retries left requestId
          fuel').run after := by
  rw [exchange, exchange, StateT.run_bind, StateT.run_bind, same]

/-- A wait goes on with another script as with its own. -/
theorem Waiting.of_replies (h : Waiting peer settings request clock requestId agent)
    (script : List Reply) :
    Waiting peer settings request clock requestId { agent with replies := script } :=
  ⟨h.isPeer, h.lastId, h.nextId, h.atClock⟩

/-- After a wait the agent may be `asked` again. -/
theorem Waiting.again (h : Waiting peer settings request clock requestId agent)
    (script : List Reply) :
    Waiting peer settings request clock (nextRequestId requestId)
      (asked settings request { agent with replies := script }) := by
  rw [← h.nextId]
  exact waiting_asked peer settings request clock { agent with replies := script } h.isPeer
    h.atClock

section

variable (isStream : Bool) (waits : settings.timeout ≠ .zero)
  (reach : clock.after? settings.timeout = some deadline)
  (waiting : Waiting peer settings request clock requestId agent) (retries : Nat)

include waits reach waiting

/-- After the last attempt, silence ends an exchange. -/
theorem run_exchange_zero_of_silence {rest : List Reply}
    (next : agent.replies = .silence :: rest ∨ agent.replies = [] ∧ rest = []) (fuel : Nat) :
    (exchange peer isStream settings request clock deadline retries 0 requestId
        (fuel + 1)).run agent = (.error (.timeout (some peer) .zero requestId retries),
        { agent with replies := rest }) := by
  obtain ⟨error, isTimeout, waited⟩ := run_wait_of_silence isStream waits reach waiting next fuel
  have elapsed : agent.clock.since clock = .zero := waiting.atClock ▸ Duration.since_self _
  rw [exchange, run_bind_of waited, Session.timedOut, if_pos isTimeout, ← elapsed]
  rfl

/-- Before the last attempt, silence leads to another. -/
theorem run_exchange_succ_of_silence {rest : List Reply}
    (next : agent.replies = .silence :: rest ∨ agent.replies = [] ∧ rest = [])
    (left fuel : Nat) :
    (exchange peer isStream settings request clock deadline retries (left + 1) requestId
        (fuel + 1)).run agent
      = (exchange peer isStream settings request clock deadline retries left
          (nextRequestId requestId) (rest.length + 1)).run
            (asked settings request { agent with replies := rest }) := by
  obtain ⟨error, isTimeout, waited⟩ := run_wait_of_silence isStream waits reach waiting next fuel
  have reach' : ({ agent with replies := rest } : ScriptedAgent).clock.after? settings.timeout
      = some deadline := waiting.atClock ▸ reach
  rw [exchange, run_bind_of waited, Session.timedOut, if_pos isTimeout, another,
    run_attempts reach']
  show StateT.run (exchange _ _ _ _ _ _ _ _ agent.nextId _) _ = _
  rw [waiting.nextId]

/-- A `Stale` reply makes no difference to an exchange. -/
theorem run_exchange_of_stale {reply : Reply} {rest : List Reply} {data : Octets}
    (next : agent.replies = reply :: rest)
    (arrives : arrival peer settings request requestId reply = .ok data)
    (stale : (awaited peer settings request requestId).Stale data) (left fuel : Nat) :
    (exchange peer isStream settings request clock deadline retries left requestId
        (fuel + 1)).run agent
      = (exchange peer isStream settings request clock deadline retries left requestId fuel).run
        { agent with replies := rest } :=
  run_exchange_congr retries left
    (run_wait_of_stale isStream waits reach waiting next arrives stale fuel)

end

/-! ## Up to the end of an exchange -/

/-- A reply that does not decide is silence or `Stale`. -/
theorem cases_of_not_decides {reply : Reply}
    (h : ¬ Decides peer settings request requestId reply) :
    reply = .silence ∨ ∃ data, arrival peer settings request requestId reply = .ok data ∧
      (awaited peer settings request requestId).Stale data := by
  by_cases silent : reply = .silence
  · exact .inl silent
  · refine .inr (Classical.byContradiction fun none => ?_)
    exact h ⟨silent, fun data arrives stale => none ⟨data, arrives, stale⟩⟩

theorem ne_silence_of_arrival {reply : Reply} {data : Octets}
    (arrives : arrival peer settings request requestId reply = .ok data) : reply ≠ .silence := by
  rintro rfl
  cases arrives

theorem silences_cons_of_ne {reply : Reply} (h : reply ≠ .silence) (replies : List Reply) :
    silences (reply :: replies) = silences replies :=
  List.count_cons_of_ne h

theorem silences_cons_silence (replies : List Reply) :
    silences (.silence :: replies) = silences replies + 1 :=
  List.count_cons_self

/-- The id in progress after the first reply is that from which the others count. -/
theorem idAfter_cons (first : Int32) (reply : Reply) (replies : List Reply) :
    idAfter first (reply :: replies) = idAfter (idAfter first [reply]) replies := by
  have split : silences (reply :: replies) = silences replies + silences [reply] := by
    rw [silences, silences, silences, ← List.count_append, List.count_append, Nat.add_comm,
      ← List.count_append, List.singleton_append]
  rw [idAfter, idAfter, idAfter, split, Function.iterate_add_apply]

theorem idAfter_singleton {reply : Reply} (h : reply ≠ .silence) (first : Int32) :
    idAfter first [reply] = first := by
  rw [idAfter, silences_cons_of_ne h]
  rfl

/-- A reply that is no silence is passed over by `afterSilences` with the attempt it came in. -/
theorem afterSilences_cons_of_ne {reply : Reply} (h : reply ≠ .silence) (count : Nat)
    (rest : List Reply) :
    afterSilences (count + 1) (reply :: rest) = afterSilences (count + 1) rest := by
  rw [afterSilences]
  exact h

theorem idsFrom_succ (first : Int32) (count : Nat) :
    idsFrom first (count + 1) = first :: idsFrom (nextRequestId first) count := by
  rw [Nat.add_comm, idsFrom_add]
  rfl

/-- Being asked once is one attempt, in front of those that were `Spent`. -/
theorem Spent.of_asked {attempts : Nat} {script rest : List Reply} {after : ScriptedAgent}
    (h : Spent settings request attempts rest
      (asked settings request { agent with replies := script }) after) :
    Spent settings request (attempts + 1) rest agent after := by
  obtain ⟨replies, sent, nextId⟩ := h
  refine ⟨replies, ?_, ?_⟩
  · rw [sent, idsFrom_succ, List.map_cons]
    exact (List.append_cons ..).symm
  · rw [nextId, Function.iterate_succ_apply]
    rfl

/-- What a script held before makes no difference to what was `Spent`. -/
theorem Spent.of_replies {attempts : Nat} {script rest : List Reply} {after : ScriptedAgent}
    (h : Spent settings request attempts rest { agent with replies := script } after) :
    Spent settings request attempts rest agent after :=
  ⟨h.replies, h.sent, h.nextId⟩

/-- A script that begins with a reply that does not decide has its `FirstDeciding` reply in the
rest, under the id that is in progress there. -/
theorem firstDeciding_cons_iff {first : Int32} {passed reply : Reply}
    {script before rest : List Reply} :
    FirstDeciding peer settings request first (passed :: script) (passed :: before) reply rest ↔
      ¬ Decides peer settings request first passed ∧
        FirstDeciding peer settings request (idAfter first [passed]) script before reply rest := by
  constructor
  · intro h
    refine ⟨h.undecided [] passed before rfl, (List.cons_eq_cons.mp h.script).2, ?_, ?_⟩
    · intro earlier other later split
      rw [← idAfter_cons]
      exact h.undecided (passed :: earlier) other later (congrArg (passed :: ·) split)
    · rw [← idAfter_cons]
      exact h.decides
  · rintro ⟨undecided, others⟩
    refine ⟨congrArg (passed :: ·) others.script, ?_, ?_⟩
    · intro earlier other later split
      cases earlier with
      | nil =>
        obtain ⟨rfl, -⟩ := List.cons_eq_cons.mp split
        exact undecided
      | cons _ earlier =>
        rw [List.cons_append, List.cons_eq_cons] at split
        obtain ⟨rfl, split⟩ := split
        rw [idAfter_cons]
        exact others.undecided earlier other later split
    · rw [idAfter_cons]
      exact others.decides

section

variable (isStream : Bool) (waits : settings.timeout ≠ .zero)
  (reach : clock.after? settings.timeout = some deadline) (retries : Nat)

include waits reach

/-- By induction on the replies before it: the `FirstDeciding` reply ends the exchange, if there are
attempts enough to come to it. -/
theorem exchange_settles {script before rest : List Reply} {reply : Reply} {left fuel : Nat}
    (waiting : Waiting peer settings request clock requestId agent) (has : agent.replies = script)
    (first : FirstDeciding peer settings request requestId script before reply rest)
    (enough : silences before ≤ left) (fueled : script.length < fuel) :
    Ensures (exchange peer isStream settings request clock deadline retries left requestId fuel)
      agent fun outcome after =>
        Settles (awaited peer settings request (idAfter requestId before))
          (arrival peer settings request (idAfter requestId before) reply) outcome ∧
        Spent settings request (silences before) rest agent after := by
  induction before generalizing script requestId agent left fuel with
  | nil =>
    obtain ⟨fuel, rfl⟩ := Nat.exists_eq_add_one_of_ne_zero (Nat.ne_zero_of_lt fueled)
    obtain ⟨outcome, notTimeout, settles, waited⟩ :=
      run_wait_of_decides isStream waits reach waiting (has.trans first.script) first.decides fuel
    rw [Ensures, exchange, run_bind_of waited, notTimeout, if_neg Bool.false_ne_true]
    exact ⟨settles, rfl, (List.append_nil _).symm, rfl⟩
  | cons passed before ih =>
    obtain ⟨fuel, rfl⟩ := Nat.exists_eq_add_one_of_ne_zero (Nat.ne_zero_of_lt fueled)
    obtain rfl := first.script
    obtain ⟨undecided, others⟩ := firstDeciding_cons_iff.mp first
    obtain rfl | ⟨data, arrives, stale⟩ := cases_of_not_decides undecided
    -- silence takes one of the attempts that are left, and the script goes on in the next one
    · rw [silences_cons_silence] at enough
      obtain ⟨left, rfl⟩ := Nat.exists_eq_add_one_of_ne_zero (Nat.ne_zero_of_lt enough)
      have asks := waiting.again (before ++ reply :: rest)
      obtain ⟨settles, spent⟩ :=
        ih asks rfl others (Nat.le_of_succ_le_succ enough) (Nat.lt_succ_self _)
      rw [Ensures,
        run_exchange_succ_of_silence isStream waits reach waiting retries (.inl has) left fuel,
        idAfter_cons, silences_cons_silence]
      exact ⟨settles, spent.of_asked⟩
    -- a stale reply takes nothing but fuel, and the attempt goes on
    · have notSilence := ne_silence_of_arrival arrives
      have same : idAfter requestId [passed] = requestId := idAfter_singleton notSilence requestId
      rw [same] at others
      rw [silences_cons_of_ne notSilence] at enough
      obtain ⟨settles, spent⟩ := ih (waiting.of_replies _) rfl others enough
        (Nat.lt_of_succ_lt_succ fueled)
      rw [Ensures,
        run_exchange_of_stale isStream waits reach waiting retries has arrives stale left fuel,
        idAfter_cons, same, silences_cons_of_ne notSilence]
      exact ⟨settles, spent.of_replies⟩

/-- By induction on the script: an `exchange` in which nothing decides in time ends with the silence
after the last attempt. -/
theorem exchange_expires {script : List Reply} {left fuel : Nat}
    (waiting : Waiting peer settings request clock requestId agent) (has : agent.replies = script)
    (tooLate : ∀ before reply rest,
      FirstDeciding peer settings request requestId script before reply rest →
        left < silences before) (fueled : script.length < fuel) :
    Ensures (exchange peer isStream settings request clock deadline retries left requestId fuel)
      agent fun outcome after =>
        outcome = .error (.timeout (some peer) .zero (nextRequestId^[left] requestId) retries) ∧
        Spent settings request left (afterSilences (left + 1) script) agent after := by
  induction script generalizing requestId agent left fuel with
  | nil =>
    -- the script does not get any shorter, but the attempts get fewer
    induction left generalizing requestId agent fuel with
    | zero =>
      obtain ⟨fuel, rfl⟩ := Nat.exists_eq_add_one_of_ne_zero (Nat.ne_zero_of_lt fueled)
      rw [Ensures,
        run_exchange_zero_of_silence isStream waits reach waiting retries (.inr ⟨has, rfl⟩)]
      exact ⟨rfl, rfl, (List.append_nil _).symm, rfl⟩
    | succ left ih =>
      obtain ⟨fuel, rfl⟩ := Nat.exists_eq_add_one_of_ne_zero (Nat.ne_zero_of_lt fueled)
      obtain ⟨expired, spent⟩ := ih (waiting.again []) rfl
        (fun before reply rest first => absurd first.script (by simp)) (Nat.lt_succ_self _)
      rw [Ensures,
        run_exchange_succ_of_silence isStream waits reach waiting retries (.inr ⟨has, rfl⟩)]
      exact ⟨expired, spent.of_asked⟩
  | cons reply script ih =>
    obtain ⟨fuel, rfl⟩ := Nat.exists_eq_add_one_of_ne_zero (Nat.ne_zero_of_lt fueled)
    -- a reply that decided would come before any silence, and so in time
    have undecided : ¬ Decides peer settings request requestId reply := fun decides =>
      absurd (tooLate [] reply script ⟨rfl, by simp, decides⟩) (Nat.not_lt_zero left)
    -- what would decide in the rest would decide here, one reply later
    have others (before : List Reply) (decisive : Reply) (rest : List Reply)
        (first : FirstDeciding peer settings request (idAfter requestId [reply]) script before
          decisive rest) : left < silences (reply :: before) :=
      tooLate (reply :: before) decisive rest (firstDeciding_cons_iff.mpr ⟨undecided, first⟩)
    obtain rfl | ⟨data, arrives, stale⟩ := cases_of_not_decides undecided
    · cases left with
      | zero =>
        rw [Ensures, run_exchange_zero_of_silence isStream waits reach waiting retries (.inl has)]
        refine ⟨rfl, ?_, (List.append_nil _).symm, rfl⟩
        rw [afterSilences, afterSilences]
      | succ left =>
        obtain ⟨expired, spent⟩ := ih (waiting.again script) rfl
          (fun before decisive rest first => by
            have := others before decisive rest first
            rw [silences_cons_silence] at this
            exact Nat.lt_of_succ_lt_succ this) (Nat.lt_succ_self _)
        rw [Ensures, run_exchange_succ_of_silence isStream waits reach waiting retries (.inl has)]
        exact ⟨expired, spent.of_asked⟩
    · have notSilence := ne_silence_of_arrival arrives
      have same : idAfter requestId [reply] = requestId := idAfter_singleton notSilence requestId
      obtain ⟨expired, spent⟩ := ih (waiting.of_replies script) rfl
        (fun before decisive rest first => by
          rw [← silences_cons_of_ne notSilence]
          rw [← same] at first
          exact others before decisive rest first) (Nat.lt_of_succ_lt_succ fueled)
      rw [Ensures,
        run_exchange_of_stale isStream waits reach waiting retries has arrives stale left fuel,
        afterSilences_cons_of_ne notSilence]
      exact ⟨expired, spent.of_replies⟩

end

/-- `execute` makes one attempt after another if its request is not refused, from the time the clock
shows. -/
theorem run_execute (answered : request.isAnswered = true)
    (allowed : request.check settings.version = .ok ()) :
    ((session agent.peer agent.isStream settings).execute request).run agent =
      let max := if agent.isStream then 0 else settings.retries.toNat
      ((session agent.peer agent.isStream settings).attempts request agent.clock max max).run
        agent := by
  rw [Session.execute, answered, Bool.not_true, if_neg Bool.false_ne_true,
    show request.check (session agent.peer agent.isStream settings).settings.version = .ok ()
      from allowed]
  rfl

/-- A session gets through a script as far as its `FirstDeciding` reply, at the cost of one attempt
for each silence before it; and if its retries do not take it there, as far as the silence after its
last attempt. All that is provided that the clock can count to the deadline of an attempt; if it
cannot, the program stops after the first message, with the whole script unread. -/
theorem execute_accounts (agent : ScriptedAgent) (settings : SessionSettings) (request : Request)
    (answered : request.isAnswered = true) (allowed : request.check settings.version = .ok ())
    (waits : settings.timeout ≠ .zero) :
    let max := if agent.isStream then 0 else settings.retries.toNat
    let run := ((session agent.peer agent.isStream settings).execute request).run agent
    (∀ deadline, agent.clock.after? settings.timeout = some deadline →
      (∀ before reply rest,
        FirstDeciding agent.peer settings request agent.nextId agent.replies before reply rest →
        silences before ≤ max →
          Settles (awaited agent.peer settings request (idAfter agent.nextId before))
            (arrival agent.peer settings request (idAfter agent.nextId before) reply) run.1 ∧
          Spent settings request (silences before + 1) rest agent run.2) ∧
      ((∀ before reply rest,
        FirstDeciding agent.peer settings request agent.nextId agent.replies before reply rest →
          max < silences before) →
        run.1 = .error (.timeout (some agent.peer) .zero (nextRequestId^[max] agent.nextId) max) ∧
        Spent settings request (max + 1) (afterSilences (max + 1) agent.replies) agent run.2)) ∧
    (agent.clock.after? settings.timeout = none →
      run.1 = .error .clockOverflow ∧ Spent settings request 1 agent.replies agent run.2) := by
  intro max run
  have begun : run = ((session agent.peer agent.isStream settings).attempts request agent.clock max
      max).run agent := run_execute answered allowed
  rw [begun]
  refine ⟨fun deadline reach => ?_, fun beyond => ?_⟩
  · have asks := waiting_asked agent.peer settings request agent.clock agent rfl rfl
    rw [run_attempts reach]
    constructor
    · intro before reply rest first enough
      obtain ⟨settles, spent⟩ := exchange_settles agent.isStream waits reach max asks rfl first
        enough (Nat.lt_succ_self agent.replies.length)
      exact ⟨settles, spent.of_asked⟩
    · intro tooLate
      obtain ⟨expired, spent⟩ := exchange_expires agent.isStream waits reach max asks rfl tooLate
        (Nat.lt_succ_self agent.replies.length)
      exact ⟨expired, spent.of_asked⟩
  · rw [run_attempts_of_overflow beyond]
    exact ⟨rfl, rfl, rfl, rfl⟩

/-- An answer to the attempt with the given id. -/
def emptyAnswer (requestId : Int32) : Octets :=
  (⟨.v2c, [], ⟨.response, requestId, 0, 0, []⟩⟩ : Message).encode

/-- An agent whose answer to the first attempt comes in the second. -/
def belated : ScriptedAgent where
  peer := ⟨.v4 ⟨127, 0, 0, 1⟩, 161⟩
  replies := [.verbatim (emptyAnswer 9), .silence, .verbatim (emptyAnswer 1),
    .answer (emptyAnswer 0), .silence]

/-- With one retry the answer to the second attempt is returned; without, the first silence is the
end of it. -/
theorem execute_accounts_belated :
    let request : Request := .get [⟨[1, 3]⟩]
    let run (retries : UInt32) :=
      ((session belated.peer false { retries }).execute request).run belated
    ((run 1).1.toOption.isSome = true ∧
      Settles (awaited belated.peer { retries := 1 } request 2)
        (arrival belated.peer { retries := 1 } request 2 (.answer (emptyAnswer 0))) (run 1).1 ∧
      Spent { retries := 1 } request 2 [.silence] belated (run 1).2) ∧
    (run 0).1 = .error (.timeout (some belated.peer) .zero 1 0) ∧
      Spent { retries := 0 } request 1 (belated.replies.drop 2) belated (run 0).2 := by
  intro request run
  have reach : belated.clock.after? ({} : SessionSettings).timeout = some (.ofSeconds 1) := by
    decide
  have waits (retries : UInt32) : ({ retries } : SessionSettings).timeout ≠ .zero :=
    fun h => nomatch congrArg Duration.nanos h
  have accounts (retries : UInt32) :=
    execute_accounts belated { retries } request rfl rfl (waits retries)
  have first : FirstDeciding belated.peer { retries := 1 } request 1 belated.replies
      [.verbatim (emptyAnswer 9), .silence, .verbatim (emptyAnswer 1)]
      (.answer (emptyAnswer 0)) [.silence] := by
    refine firstDeciding_cons_iff.mpr ⟨by decide +kernel, ?_⟩
    refine firstDeciding_cons_iff.mpr ⟨by decide +kernel, ?_⟩
    refine firstDeciding_cons_iff.mpr ⟨by decide +kernel, rfl, ?_, by decide +kernel⟩
    exact fun earlier passed later split => absurd split (by simp)
  refine ⟨⟨by decide +kernel, ?_⟩, ?_⟩
  · exact ((accounts 1).1 _ reach).1 _ _ _ first (by decide)
  · refine ((accounts 0).1 _ reach).2 fun before reply rest late => ?_
    -- neither the stale answer nor the silence after it decides
    match before, late with
    | [], late =>
      obtain ⟨rfl, -⟩ := List.cons_eq_cons.mp late.script
      exact absurd late.decides (by decide +kernel)
    | [passed], late =>
      obtain ⟨-, rfl, -⟩ := late.script
      exact absurd late.decides (by decide +kernel)
    | stale :: passed :: before, late =>
      obtain ⟨-, others⟩ := List.cons_eq_cons.mp late.script
      obtain ⟨rfl, -⟩ := List.cons_eq_cons.mp others
      exact List.count_pos_iff.mpr (by simp)

/-- An agent that answers at once. -/
def prompt : ScriptedAgent where
  peer := ⟨.v4 ⟨127, 0, 0, 1⟩, 161⟩
  replies := [.answer (emptyAnswer 0)]

/-- A wait of so many seconds that the clock does not get there: the answer is not even looked
at. -/
theorem execute_overflows :
    let request : Request := .get [⟨[1, 3]⟩]
    let settings : SessionSettings := { timeout := .ofSeconds 18446744073709551615 }
    let run := ((session prompt.peer false settings).execute request).run prompt
    settings.timeout ≠ .zero ∧
    FirstDeciding prompt.peer settings request 1 prompt.replies [] (.answer (emptyAnswer 0)) [] ∧
    run.1 = .error .clockOverflow ∧
    ¬ Settles (awaited prompt.peer settings request 1)
      (arrival prompt.peer settings request 1 (.answer (emptyAnswer 0))) run.1 ∧
    run.2.replies = prompt.replies ∧ run.2.sent.length = 1 := by
  intro request settings run
  have beyond : prompt.clock.after? settings.timeout = none := by decide
  have stopped : run = (.error .clockOverflow, asked settings request prompt) :=
    (run_execute rfl rfl).trans (run_attempts_of_overflow beyond)
  rw [stopped]
  refine ⟨by decide, ⟨rfl, by simp, by decide +kernel⟩, rfl, ?_, rfl, rfl⟩
  -- an answer arrives, and no answer comes to this error
  rw [arrival, outcome]
  split <;> exact not_settles_overflow _ _

end ScriptedAgent

end SnmpManager
