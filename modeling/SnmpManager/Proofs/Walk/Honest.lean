import SnmpManager.Proofs.Message.RoundTrip
import SnmpManager.Proofs.Session.Ensures
import SnmpManager.Proofs.Session.Interpretation
import SnmpManager.Proofs.Walk.Batching
import SnmpManager.Proofs.Walk.Table

/-!
# Honest agents

An agent is honest about a table if, whatever a walk asks it, a reply arrives in
time that reports no error and says what is in the table.

- `Table.Answers`: what may be said in answer to a request. In bulk the agent
  chooses how much it says at once.
- `Walk.Asks`: the requests of a walk over a table.
- `HonestReply`: a message that answers a request.
- `Honest`: a session over a channel to an honest agent.

Over such a session an exchange gives an answer (`Honest.execute_ensures`), provided that
the clock can count to its deadline (`Deadlines`); if it cannot, the program stops
(`Honest.execute_overflows`).
-/

namespace SnmpManager

/-- What an honest agent may say in answer to a request about one object. -/
inductive Table.Answers (table : Table) : Request → List VarBind → Prop where
  | get (oid : Oid) : Answers table (.get [oid]) [table.get oid]
  | getNext (oid : Oid) : Answers table (.getNext [oid]) [table.next oid]
  /-- The one object is not to be repeated. -/
  | single (oid : Oid) (maxRepetitions : UInt32) :
    Answers table (.getBulk [oid] 1 maxRepetitions) [table.next oid]
  | repeated (oid : Oid) (maxRepetitions : UInt32) (count : Nat) (some : 1 ≤ count)
    (atMost : count ≤ maxRepetitions.toNat) :
    Answers table (.getBulk [oid] 0 maxRepetitions) (table.row oid count)

/-- The requests of a walk over a table. -/
inductive Walk.Asks (table : Table) (root : Oid) (options : WalkOptions) : Request → Prop where
  | root : Asks table root options (.get [root])
  | first : Asks table root options (iterationRequest options root)
  | after (entry : VarBind) (mem : entry ∈ table.entries) :
    Asks table root options (iterationRequest options entry.oid)

/-- A message that answers a request as an honest agent does, and that is not too long to read. -/
structure HonestReply (table : Table) (settings : SessionSettings) (request : Request)
    (requestId : Int32) (message : Message) : Prop where
  version : message.version = settings.version
  kind : message.pdu.kind = .response
  requestId : message.pdu.requestId = requestId
  noError : message.pdu.errorStatus = 0
  answers : table.Answers request message.pdu.bindings
  short : message.content.length ≤ Length.max

/-- A session with an agent that is honest about a table. Where it is ready for a request of the
walk, the message gets through, the reply arrives before the deadline, if there is one
(`Deadlines`), and it is ready again. -/
structure Honest {σ : Type} (table : Table) (root : Oid) (options : WalkOptions)
    (session : Session (StateM σ)) (ready : σ → Prop) : Prop where
  version : session.settings.version = .v2c
  now : ∀ state, ready state → Ensures session.channel.now state fun _ after => ready after
  freshId : ∀ state, ready state → Ensures session.freshId state fun _ after => ready after
  exchange : ∀ request, Walk.Asks table root options request → ∀ requestId state, ready state →
    Ensures (session.channel.send (Session.message session.settings request requestId).encode) state
      fun outcome sent => outcome = .ok () ∧
    Ensures session.channel.now sent fun start opened =>
      ∀ deadline, start.after? session.settings.timeout = some deadline →
    Ensures session.channel.backlog opened fun _ counted =>
    Ensures session.channel.now counted fun now waiting =>
      let remaining := deadline.since now
      remaining ≠ .zero ∧
    Ensures (session.channel.receive requestId remaining) waiting fun outcome after =>
      ready after ∧ ∃ message, outcome = .ok message.encode ∧
        HonestReply table session.settings request requestId message

/-- What holds of the deadlines of a walk: that of a wait is fixed when the message was sent to an
agent that was `ready` for it, and it is `none` if the clock cannot count to it. -/
def Deadlines {σ : Type} (table : Table) (root : Oid) (options : WalkOptions)
    (session : Session (StateM σ)) (ready : σ → Prop) (are : Option Duration → Prop) : Prop :=
  ∀ request, Walk.Asks table root options request → ∀ requestId state, ready state →
    Ensures (session.channel.send (Session.message session.settings request requestId).encode) state
      fun _ sent => Ensures session.channel.now sent
        fun start _ => are (start.after? session.settings.timeout)

/-! ## Bindings that can be sent -/

/-- The objects of a walk over a table, and their values, can be sent and received. -/
structure Table.Encodable (table : Table) (root : Oid) : Prop where
  root : root.Encodable
  entries : ∀ entry ∈ table.entries, entry.Encodable

namespace Table

variable {table : Table} {root : Oid}

/-- What `get` says of an encodable object is encodable, whether the table has it or not. -/
theorem encodable_get (h : table.Encodable root) {oid : Oid} (ok : oid.Encodable) :
    (table.get oid).Encodable := by
  rw [get]
  cases found : table.entries.find? fun entry => entry.oid = oid with
  | none => exact ⟨ok, trivial⟩
  | some entry => exact h.entries entry (List.mem_of_find?_eq_some found)

theorem encodable_next (h : table.Encodable root) {oid : Oid} (ok : oid.Encodable) :
    (table.next oid).Encodable := by
  rw [next]
  cases found : table.entries.find? fun entry => oid < entry.oid with
  | none => exact ⟨ok, trivial⟩
  | some entry => exact h.entries entry (List.mem_of_find?_eq_some found)

theorem encodable_row (h : table.Encodable root) {oid : Oid} (ok : oid.Encodable) (count : Nat) :
    ∀ binding ∈ table.row oid count, binding.Encodable := by
  induction count generalizing oid with
  | zero => exact fun _ mem => absurd mem List.not_mem_nil
  | succ count ih =>
    have first := encodable_next h ok
    intro binding mem
    rcases List.mem_cons.mp mem with rfl | mem
    · exact first
    · exact ih first.oid binding mem

end Table

namespace Walk.Asks

variable {table : Table} {root : Oid} {options : WalkOptions} {request : Request}

/-- A walk asks about one object at a time, the root or one of the table, so both can be sent. -/
theorem requested_encodable (h : table.Encodable root) (asks : Asks table root options request) :
    ∀ oid ∈ request.requested, oid.Encodable := by
  have iteration (cursor : Oid) : (iterationRequest options cursor).requested = [cursor] := by
    rw [iterationRequest]
    split <;> rfl
  cases asks with
  | root =>
    intro oid mem
    rw [List.mem_singleton.mp mem]
    exact h.root
  | first =>
    rw [iteration]
    intro oid mem
    rw [List.mem_singleton.mp mem]
    exact h.root
  | after entry inTable =>
    rw [iteration]
    intro oid mem
    rw [List.mem_singleton.mp mem]
    exact (h.entries entry inTable).oid

/-- Whatever the table `Answers` is in it, or is that there is nothing. -/
theorem answers_encodable (h : table.Encodable root) (asks : Asks table root options request)
    {bindings : List VarBind} (answers : table.Answers request bindings) :
    ∀ binding ∈ bindings, binding.Encodable := by
  have requested := asks.requested_encodable h
  cases answers with
  | get oid =>
    intro binding mem
    rw [List.mem_singleton.mp mem]
    exact Table.encodable_get h (requested oid List.mem_cons_self)
  | getNext oid => exact Table.encodable_row h (requested oid List.mem_cons_self) 1
  | single oid => exact Table.encodable_row h (requested oid List.mem_cons_self) 1
  | repeated oid maxRepetitions count =>
    exact Table.encodable_row h (requested oid List.mem_cons_self) count

/-- The requests that `Walk.Asks` allows are answered, and a session of version 2c makes them. -/
theorem allowed (counts : ∀ counts ∈ options.bulk, counts.nonRepeaters ≤ 1)
    (asks : Asks table root options request) :
    request.isAnswered = true ∧ request.check .v2c = .ok () := by
  have iteration (cursor : Oid) : (iterationRequest options cursor).isAnswered = true ∧
      (iterationRequest options cursor).check .v2c = .ok () := by
    rw [iterationRequest]
    split
    case h_1 bulk isBulk =>
      refine ⟨rfl, ?_⟩
      have atMost : ¬ bulk.nonRepeaters.toNat > 1 := by
        have := UInt32.le_iff_toNat_le.mp (counts bulk isBulk)
        simpa using this
      rw [Request.check, List.length_singleton, if_neg atMost]
      rfl
    case h_2 => exact ⟨rfl, rfl⟩
  cases asks with
  | root => exact ⟨rfl, rfl⟩
  | first => exact iteration root
  | after entry => exact iteration entry.oid

end Walk.Asks

/-! ## Exchanges -/

/-- An `HonestReply` is read and taken for the answer. -/
theorem HonestReply.interpret {table : Table} {settings : SessionSettings} {request : Request}
    {message : Message} (expected : Expected) (version : settings.version = expected.version)
    (reply : HonestReply table settings request expected.requestId message)
    (encodable : ∀ binding ∈ message.pdu.bindings, binding.Encodable) :
    interpret expected message.encode = .ok (.answer (expected.answer message)) := by
  refine interpret_eq_answer_iff.mpr ⟨message, ?_, reply.version.trans version, reply.kind,
    reply.requestId, rfl⟩
  rw [Message.encode_eq]
  exact Message.decode_content encodable reply.short

namespace Honest

variable {σ : Type} {table : Table} {root : Oid} {options : WalkOptions}
  {session : Session (StateM σ)} {ready : σ → Prop}

/-- What an exchange leaves behind: an answer, and an agent that is ready again. -/
def Answered (table : Table) (ready : σ → Prop) (request : Request)
    (outcome : Except Error Response) (after : σ) : Prop :=
  ready after ∧ ∃ response, outcome = .ok response ∧ response.isError = false ∧
    table.Answers request response.bindings

variable (h : Honest table root options session ready) (encodable : table.Encodable root)
  {request : Request} (asks : Walk.Asks table root options request)

section

variable (inReach : Deadlines table root options session ready (· ≠ none))

include h encodable asks inReach

/-- If there is a deadline, the first attempt is `Answered`. -/
theorem attempt_ensures {state : σ} (isReady : ready state) :
    Ensures (session.attempt request) state fun result after =>
      ∃ outcome, result.2 = .settled outcome ∧ Answered table ready request outcome after := by
  rw [Session.attempt]
  refine ensures_bind (ensures_mono (h.freshId state isReady) ?_)
  intro requestId between isReady
  refine ensures_bind (ensures_mono (ensures_and (h.exchange request asks requestId between isReady)
    (inReach request asks requestId between isReady)) ?_)
  rintro _ sent ⟨⟨rfl, waits⟩, fixed⟩
  refine ensures_bind (ensures_mono (ensures_and waits fixed) ?_)
  rintro start opened ⟨counts, fixed⟩
  obtain ⟨deadline, reach⟩ := Option.ne_none_iff_exists'.mp fixed
  rw [reach]
  refine ensures_bind (ensures_mono (counts deadline reach) ?_)
  intro backlog counted looks
  refine ensures_bind ?_
  rw [Session.await]
  refine ensures_bind (ensures_mono looks ?_)
  rintro now waiting ⟨inTime, receives⟩
  dsimp only
  rw [if_neg inTime]
  refine ensures_bind (ensures_mono receives ?_)
  rintro _ after ⟨isReady, message, rfl, reply⟩
  -- the first message received is the reply, so the wait ends with it
  have meaning := HonestReply.interpret (session.expected request requestId) rfl reply
    (asks.answers_encodable encodable reply.answers)
  dsimp only
  rw [meaning]
  refine ⟨_, rfl, isReady, _, rfl, ?_, reply.answers⟩
  rw [Response.isError, Expected.answer, reply.noError]
  rfl

/-- The first attempt is `Answered`, so there is no other. -/
theorem attempts_ensures (start : Duration) (retries left : Nat) {state : σ}
    (isReady : ready state) :
    Ensures (session.attempts request start retries left) state
      (Answered table ready request) := by
  cases left <;> rw [Session.attempts]
  all_goals
    refine ensures_bind (ensures_mono (h.attempt_ensures encodable asks inReach isReady) ?_)
    rintro ⟨requestId, _⟩ after ⟨outcome, rfl, answered⟩
    exact answered

/-- An exchange is not refused, so it is `Answered` in its first attempt. -/
theorem execute_ensures (counts : ∀ counts ∈ options.bulk, counts.nonRepeaters ≤ 1) {state : σ}
    (isReady : ready state) :
    Ensures (session.execute request) state (Answered table ready request) := by
  obtain ⟨isAnswered, allowed⟩ := asks.allowed counts
  rw [Session.execute, isAnswered, Bool.not_true, if_neg Bool.false_ne_true, h.version, allowed]
  refine ensures_bind (ensures_mono (h.now state isReady) ?_)
  intro start between isReady
  exact h.attempts_ensures encodable asks inReach start _ _ isReady

end

include h asks

/-- If no deadline can be fixed, the program stops in the first exchange, with `clockOverflow`. -/
theorem execute_overflows (beyond : Deadlines table root options session ready (· = none))
    (counts : ∀ counts ∈ options.bulk, counts.nonRepeaters ≤ 1) {state : σ}
    (isReady : ready state) :
    Ensures (session.execute request) state fun outcome _ => outcome = .error .clockOverflow := by
  obtain ⟨isAnswered, allowed⟩ := asks.allowed counts
  rw [Session.execute, isAnswered, Bool.not_true, if_neg Bool.false_ne_true, h.version, allowed]
  refine ensures_bind (ensures_mono (h.now state isReady) ?_)
  intro start between isReady
  have attempted : Ensures (session.attempt request) between fun result _ =>
      result.2 = .settled (.error .clockOverflow) := by
    rw [Session.attempt]
    refine ensures_bind (ensures_mono (h.freshId between isReady) ?_)
    intro requestId taken isReady
    refine ensures_bind (ensures_mono (ensures_and (h.exchange request asks requestId taken isReady)
      (beyond request asks requestId taken isReady)) ?_)
    rintro _ sent ⟨⟨rfl, -⟩, never⟩
    refine ensures_bind (ensures_mono never ?_)
    intro start opened never
    rw [never]
    rfl
  cases session.maxRetries <;> rw [Session.attempts]
  all_goals
    refine ensures_bind (ensures_mono attempted ?_)
    rintro ⟨requestId, _⟩ after rfl
    rfl

end Honest

end SnmpManager
