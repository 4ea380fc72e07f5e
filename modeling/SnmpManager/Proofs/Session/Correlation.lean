import Mathlib.Algebra.Group.Int.Defs
import SnmpManager.Proofs.Session.Interpretation
import SnmpManager.Proofs.Session.Ledger
import SnmpManager.Session.Scripted

/-!
# Answers and the requests they belong to

Over one session, whatever its channel does, every answer that is returned
answers the last message of the very call that returns it
(`Session.answers_are_own`). Replies to earlier attempts and to earlier calls may
turn up at any time, even twice; they carry other ids, because a counter that does
not run past the largest id never hands out one twice.

- `Operation`, `Call`: what is done with a session and what came of it.
- `Session.calls`: a run of operations, one after another, from some state of the
  channel and some id.
-/

namespace SnmpManager

/-! ## Ids -/

/-- A counter that does not pass the largest id counts, so `nextRequestId` repeats none. -/
theorem toInt_iterate_nextRequestId {first : Int32} {k : Nat} (room : first.toInt + k < 2 ^ 31) :
    (nextRequestId^[k] first).toInt = first.toInt + k := by
  induction k with
  | zero => simp
  | succ k ih =>
    have value := ih (by omega)
    have below : nextRequestId^[k] first ≠ Int32.maxValue := by
      intro max
      rw [max] at value
      have : Int32.maxValue.toInt = 2 ^ 31 - 1 := by decide
      omega
    -- below the largest id there is no way around, and adding one does not overflow
    have low := first.le_toInt
    rw [Function.iterate_succ_apply', nextRequestId, if_neg below, Int32.toInt_add, value]
    have one : (1 : Int32).toInt = 1 := by decide
    rw [one, Int.bmod_eq_of_le (by omega) (by omega)]
    omega

/-- The ids of `idsFrom` only grow, as long as the counter does not pass the largest. -/
theorem idsFrom_pairwise {first : Int32} {count : Nat} (room : first.toInt + count ≤ 2 ^ 31) :
    (idsFrom first count).Pairwise (· < ·) := by
  rw [idsFrom, List.pairwise_map]
  refine List.Pairwise.imp_of_mem ?_ List.pairwise_lt_range
  intro j k hj hk lt
  rw [List.mem_range] at hj hk
  rw [Int32.lt_iff_toInt_lt, toInt_iterate_nextRequestId (by omega),
    toInt_iterate_nextRequestId (by omega)]
  omega

theorem idsFrom_pos {first : Int32} {count : Nat} (positive : 0 < first)
    (room : first.toInt + count ≤ 2 ^ 31) : ∀ id ∈ idsFrom first count, 0 < id := by
  intro id mem
  obtain ⟨k, hk, rfl⟩ := List.mem_map.mp mem
  rw [List.mem_range] at hk
  rw [Int32.lt_iff_toInt_lt] at positive ⊢
  rw [toInt_iterate_nextRequestId (by omega)]
  omega

/-! ## Runs of operations -/

/-- What can be done with a session. -/
inductive Operation where
  | execute (request : Request)
  | notify (uptime : UInt32) (trapOid : Oid) (bindings : List VarBind)
  deriving DecidableEq, Repr

namespace Operation

/-- The request that the messages of an operation carry. -/
def request : Operation → Request
  | .execute request => request
  | .notify uptime trapOid bindings => .trap uptime trapOid bindings

/-- Do it; a notification has no answer. -/
def perform {m : Type → Type} [Monad m] (session : Session m) :
    Operation → m (Except Error (Option Response))
  | .execute request => do return (← session.execute request).map some
  | .notify uptime trapOid bindings => do
    return (← session.notify uptime trapOid bindings).map fun _ => none

end Operation

/-- An operation, what came of it, and what went over the channel meanwhile. -/
structure Call where
  operation : Operation
  outcome : Except Error (Option Response)
  ids : List Int32
  sent : List Octets
  received : List Octets

namespace Session

variable {σ : Type} (inner : Channel (StateM σ)) (settings : SessionSettings)

/-- Operations one after another, each with a ledger of its own. -/
def calls : List Operation → σ → Int32 → List Call
  | [], _, _ => []
  | operation :: rest, world, nextId =>
    let result := (operation.perform (ledgered inner settings)).run { world, nextId }
    ⟨operation, result.1, result.2.ids, result.2.sent, result.2.received⟩
      :: calls rest result.2.world result.2.nextId

/-- The answer a call returns was received during the call, and interpreted against its last id. -/
def AnsweredInTurn (call : Call) : Prop :=
  ∀ response, call.outcome = .ok (some response) → ∃ id, call.ids.getLast? = some id ∧
    ∃ data ∈ call.received, interpret ((ledgered inner settings).expected call.operation.request id)
      data = .ok (.answer response)

/-- The step lemma: what `perform` leaves behind, from an empty ledger. -/
theorem perform_ensures (operation : Operation) (world : σ) (nextId : Int32) :
    Ensures (operation.perform (ledgered inner settings)) { world, nextId } fun outcome after =>
      ∃ count, after.nextId = nextRequestId^[count] nextId ∧ after.ids = idsFrom nextId count ∧
        after.sent = after.ids.map (fun id => (message settings operation.request id).encode) ∧
        AnsweredInTurn inner settings
          ⟨operation, outcome, after.ids, after.sent, after.received⟩ := by
  cases operation with
  | execute request =>
    rw [Operation.perform]
    refine ensures_bind (ensures_mono (execute_ensures inner settings request _) ?_)
    rintro outcome _ ⟨count, world, received, rfl, answered⟩
    refine ⟨count, rfl, rfl, rfl, fun response ok => ?_⟩
    cases outcome with
    | error e => cases ok
    | ok answer =>
      cases ok
      -- there is an answer, so there was an attempt, and the last id is its
      obtain ⟨retries, rfl, data, mem, meaning⟩ := answered response rfl
      exact ⟨_, getLast?_idsFrom_succ nextId retries, data, mem, meaning⟩
  | notify uptime trapOid bindings =>
    rw [Operation.perform]
    refine ensures_bind (ensures_mono (notify_ensures inner settings uptime trapOid bindings _) ?_)
    rintro outcome _ ⟨count, world, rfl⟩
    refine ⟨count, rfl, rfl, rfl, fun response ok => ?_⟩
    cases outcome <;> cases ok

/-- By induction on the operations: all `calls` of a run together take the ids from the first on,
one after another. -/
theorem flatMap_ids_calls (operations : List Operation) (world : σ) (firstId : Int32) :
    ∃ count, (calls inner settings operations world firstId).flatMap Call.ids
      = idsFrom firstId count := by
  induction operations generalizing world firstId with
  | nil => exact ⟨0, rfl⟩
  | cons operation rest ih =>
    obtain ⟨first, nextId, ids, -, -⟩ := perform_ensures inner settings operation world firstId
    obtain ⟨others, tail⟩ := ih
      ((operation.perform (ledgered inner settings)).run ⟨world, firstId, [], [], []⟩).2.world
      (nextRequestId^[first] firstId)
    refine ⟨first + others, ?_⟩
    rw [calls, List.flatMap_cons, idsFrom_add]
    simp only [nextId, ids, tail]

/-- By induction on the operations: each of the `calls` sends its own request under its own ids, and
takes its answer in turn. -/
theorem calls_answered (operations : List Operation) (world : σ) (firstId : Int32) :
    ∀ call ∈ calls inner settings operations world firstId,
      call.sent = call.ids.map (fun id => (message settings call.operation.request id).encode) ∧
        AnsweredInTurn inner settings call := by
  induction operations generalizing world firstId with
  | nil => exact fun call mem => absurd mem List.not_mem_nil
  | cons operation rest ih =>
    obtain ⟨_, -, -, sent, answered⟩ := perform_ensures inner settings operation world firstId
    intro call mem
    rw [calls, List.mem_cons] at mem
    rcases mem with rfl | mem
    · exact ⟨sent, answered⟩
    · exact ih _ _ call mem

/-- The messages of a run of calls carry positive ids that only grow, and every answer is credited
to the call that asked for it. -/
structure Correlated (settings : SessionSettings) (run : List Call) : Prop where
  ids_increase : (run.flatMap Call.ids).Pairwise (· < ·)
  ids_pos : ∀ id ∈ run.flatMap Call.ids, 0 < id
  sent_under_ids : ∀ call ∈ run,
    call.sent = call.ids.map fun id => (message settings call.operation.request id).encode
  /-- An answer is a response received during its call, under the id of the call's last message:
  an id that no earlier call and no earlier attempt of the call has. -/
  answers_own : ∀ before call after response, run = before ++ call :: after →
    call.outcome = .ok (some response) → ∃ data ∈ call.received, ∃ answer,
      Message.decode data = .ok answer ∧ answer.version = settings.version ∧
      answer.pdu.kind = .response ∧ call.ids.getLast? = some answer.pdu.requestId ∧
      answer.pdu.requestId ∉ before.flatMap Call.ids ++ call.ids.dropLast ∧
      response.requested = call.operation.request.requested ∧
      response.bindings = answer.pdu.bindings ∧
      response.status = .ofCode answer.pdu.errorStatus ∧
      response.index = indexField answer.pdu.errorIndex

/-- The last id of a call is the last so far, and ids that only grow are never repeated. -/
theorem last_id_fresh {before after : List Call} {call : Call} {id : Int32}
    (increase : ((before ++ call :: after).flatMap Call.ids).Pairwise (· < ·))
    (last : call.ids.getLast? = some id) :
    id ∉ before.flatMap Call.ids ++ call.ids.dropLast := by
  obtain ⟨earlier, ids⟩ := List.getLast?_eq_some_iff.mp last
  rw [List.flatMap_append, List.flatMap_cons, ids, ← List.append_assoc, ← List.append_assoc,
    List.append_assoc, List.pairwise_append] at increase
  -- the id would be less than itself
  intro mem
  rw [ids, List.dropLast_concat] at mem
  have less := increase.2.2 id mem id (List.mem_append_left _ (List.mem_singleton_self id))
  exact absurd less Int32.lt_irrefl

/-- Whatever the channel does, no answer is credited to the wrong request: every run of `calls` is
`Correlated`. -/
theorem answers_are_own (operations : List Operation) (world : σ) (firstId : Int32)
    (positive : 0 < firstId)
    (room : firstId.toInt
      + ((calls inner settings operations world firstId).flatMap Call.ids).length ≤ 2 ^ 31) :
    Correlated settings (calls inner settings operations world firstId) := by
  obtain ⟨count, ids⟩ := flatMap_ids_calls inner settings operations world firstId
  rw [ids, length_idsFrom] at room
  have increase := idsFrom_pairwise room
  rw [← ids] at increase
  refine ⟨increase, ?_, ?_, ?_⟩
  · rw [ids]
    exact idsFrom_pos positive room
  · exact fun call mem => (calls_answered inner settings operations world firstId call mem).1
  · intro before call after response run outcome
    -- the call is one of the run, and took its answer in turn
    have mem : call ∈ calls inner settings operations world firstId := by
      rw [run]
      exact List.mem_append_right _ List.mem_cons_self
    obtain ⟨id, last, data, received, meaning⟩ :=
      (calls_answered inner settings operations world firstId call mem).2 response outcome
    obtain ⟨answer, decoded, version, kind, own, rfl⟩ := interpret_eq_answer_iff.mp meaning
    change answer.pdu.requestId = id at own
    subst own
    rw [run] at increase
    exact ⟨data, received, answer, decoded, version, kind, last, last_id_fresh increase last,
      rfl, rfl, rfl, rfl⟩

/-- A response under some id, as it goes over a channel. -/
def lateResponse (requestId : Int32) : Octets :=
  (⟨.v2c, [], ⟨.response, requestId, 0, 0, [⟨⟨[1, 3]⟩, .counter32 7⟩]⟩⟩ : Message).encode

/-- An agent whose first answer comes after the timeout and whose second comes twice. -/
def lateAgent : ScriptedAgent where
  peer := ⟨.v4 ⟨127, 0, 0, 1⟩, 161⟩
  replies := [.silence, .verbatim (lateResponse 1), .verbatim (lateResponse 2),
    .verbatim (lateResponse 2), .verbatim (lateResponse 4)]

/-- Two requests and a notification between them. -/
def lateCalls : List Call :=
  calls (ScriptedAgent.channel lateAgent.peer false) { community := [], retries := 1 }
    [.execute (.get [⟨[1, 3]⟩]), .notify 7 ⟨[1, 3, 6]⟩ [], .execute (.getNext [⟨[1, 2]⟩])]
    lateAgent 1

/-- Three of the five replies are silence or answers to something else, and none is returned. -/
theorem answers_are_own_late :
    lateCalls.map Call.ids = [[1, 2], [3], [4]] ∧
    lateCalls.map (fun call => call.received.length) = [2, 0, 2] ∧
    lateCalls.map (fun call => call.outcome.toOption.isSome) = [true, true, true] ∧
    Correlated { community := [], retries := 1 } lateCalls :=
  ⟨by decide +kernel, by decide +kernel, by decide +kernel,
    answers_are_own _ _ _ lateAgent 1 (by decide) (by decide +kernel)⟩

end Session

end SnmpManager
