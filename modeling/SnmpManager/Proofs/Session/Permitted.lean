import SnmpManager.Proofs.Message.Header
import SnmpManager.Proofs.Session.Correlation
import SnmpManager.Proofs.Session.Sent
import SnmpManager.Proofs.Walk.Polls

/-!
# Only what may be sent is sent

Whatever is done with a session and its walks, and whatever the agent does, no
message is sent that the version of the session does not carry, and no GETBULK whose
counts do not fit its objects (`Session.turns_safe`). What is refused for such a
reason is refused before anything happens.

- `Message.Permitted`: what a message of some version may be.
- `Octets.Carry`: octets written for a message of some kind, and never read as one of
  another.
- `Operation.Refused`: operations that are refused, and why.
- `Action`, `Turn`: what can be done with a session and the walks over it, and what
  came of it. `Session.turns` is a run of actions in any order, in which walks may be
  in progress side by side and other calls come between their polls.
-/

namespace SnmpManager

/-! ## Messages that may be sent -/

/-- What a message of some version may be: nothing that only the later version has, unless it is
that; and no GETBULK whose counts are negative or more than its objects. -/
structure Message.Permitted (version : Version) (message : Message) : Prop where
  sameVersion : message.version = version
  carried : version = .v1 → message.pdu.kind ≠ .getBulkRequest ∧ message.pdu.kind ≠ .trapV2
  nonRepeaters : message.pdu.kind = .getBulkRequest →
    0 ≤ message.pdu.errorStatus.toInt ∧
      message.pdu.errorStatus.toInt ≤ message.pdu.bindings.length
  maxRepetitions : message.pdu.kind = .getBulkRequest →
    0 ≤ message.pdu.errorIndex.toInt ∧ message.pdu.errorIndex.toInt ≤ Int32.maxValue.toInt

/-- Whether a message is `Permitted` shows in its header, so it shows in what is read for it. -/
theorem Message.Permitted.of_sameHeader {version : Version} {message decoded : Message}
    (h : message.Permitted version) (same : message.SameHeader decoded) :
    decoded.Permitted version := by
  obtain ⟨kind, -, status, index, bindings⟩ := same.pdu
  constructor
  · rw [same.version]
    exact h.sameVersion
  · rw [kind]
    exact h.carried
  · rw [kind, status, bindings]
    exact h.nonRepeaters
  · rw [kind, index]
    exact h.maxRepetitions

/-- Octets that were written for a message of some kind, and are read as one of that kind if they
are read at all. -/
structure Octets.Carry (kind : Message → Prop) (data : Octets) : Prop where
  written : ∃ message, message.encode = data ∧ kind message
  read : ∀ message, Message.decode data = .ok message → kind message

theorem Octets.carry_encode {kind : Message → Prop} {message : Message} (h : kind message)
    (header : ∀ decoded, message.SameHeader decoded → kind decoded) :
    Carry kind message.encode :=
  ⟨⟨message, rfl, h⟩, fun decoded read => header decoded (Message.header_of_decode read)⟩

theorem Octets.Carry.mono {kind kind' : Message → Prop} {data : Octets} (h : Carry kind data)
    (weaker : ∀ message, kind message → kind' message) : Carry kind' data := by
  obtain ⟨⟨message, written, holds⟩, read⟩ := h
  exact ⟨⟨message, written, weaker message holds⟩, fun _ decoded => weaker _ (read _ decoded)⟩

section

variable {settings : SessionSettings} {request : Request}

/-- What passes `Request.check` may be sent, under whatever id. -/
theorem Session.permitted_message (passed : request.check settings.version = .ok ())
    (requestId : Int32) : (message settings request requestId).Permitted settings.version := by
  cases request with
  | get oids => exact ⟨rfl, fun _ => by simp [message, Request.pdu, Pdu.asking], nofun, nofun⟩
  | getNext oids => exact ⟨rfl, fun _ => by simp [message, Request.pdu, Pdu.asking], nofun, nofun⟩
  | trap uptime trapOid bindings =>
    unfold Request.check at passed
    refine ⟨rfl, fun v1 => ?_, nofun, nofun⟩
    rw [v1] at passed
    cases passed
  | getBulk oids nonRepeaters maxRepetitions =>
    rw [Request.check] at passed
    split at passed
    case isTrue => cases passed
    case isFalse carried =>
      split at passed
      case isTrue => cases passed
      -- counts are cut to what fits the field, and the non-repeaters fit as they are
      case isFalse few =>
        have counted : (oids.map VarBind.ofOid).length = oids.length := List.length_map ..
        refine ⟨rfl, fun v1 => ?_, fun _ => ?_, fun _ => ?_⟩
        · rw [v1] at carried
          exact absurd rfl carried
        · show 0 ≤ (Request.countField nonRepeaters).toInt ∧
            (Request.countField nonRepeaters).toInt ≤ (oids.map VarBind.ofOid).length
          rw [Request.toInt_countField, counted]
          omega
        · show 0 ≤ (Request.countField maxRepetitions).toInt ∧
            (Request.countField maxRepetitions).toInt ≤ Int32.maxValue.toInt
          rw [Request.toInt_countField, show Int32.maxValue.toInt = 0x7FFFFFFF by decide]
          omega

theorem Session.kind_message (answered : request.isAnswered = true) (requestId : Int32) :
    (message settings request requestId).pdu.kind ≠ .trapV2 := by
  cases request with
  | get | getNext | getBulk => simp [message, Request.pdu, Pdu.asking]
  | trap => cases answered

/-- What an exchange may send: what the version carries, and no notification. -/
def Session.Asks (settings : SessionSettings) : Octets → Prop :=
  Octets.Carry fun message =>
    message.Permitted settings.version ∧ message.pdu.kind ≠ .trapV2

/-- A request that is not refused is one that a session `Asks` with. -/
theorem Session.asks_message (passed : request.refusal? settings.version = none)
    (requestId : Int32) : Asks settings (message settings request requestId).encode := by
  obtain ⟨answered, checked⟩ := Request.refusal?_eq_none_iff.mp passed
  have permitted := permitted_message checked requestId
  have kind : (message settings request requestId).pdu.kind ≠ .trapV2 :=
    kind_message answered requestId
  refine Octets.carry_encode ⟨permitted, kind⟩ fun decoded same => ?_
  refine ⟨permitted.of_sameHeader same, ?_⟩
  rw [same.pdu.kind]
  exact kind

end

/-! ## What is refused -/

/-- Operations that are refused, and why. -/
inductive Operation.Refused (version : Version) : Operation → UsageFault → Prop
  | unconfirmed {uptime : UInt32} {trapOid : Oid} {bindings : List VarBind} :
    Refused version (.execute (.trap uptime trapOid bindings)) .unconfirmed
  | bulkOnV1 {oids : List Oid} {nonRepeaters maxRepetitions : UInt32} (v1 : version = .v1) :
    Refused version (.execute (.getBulk oids nonRepeaters maxRepetitions)) .v2PduOnV1
  | tooFewObjects {oids : List Oid} {nonRepeaters maxRepetitions : UInt32} (v2c : version = .v2c)
    (few : oids.length < nonRepeaters.toNat) :
    Refused version (.execute (.getBulk oids nonRepeaters maxRepetitions))
      (.tooFewObjects nonRepeaters oids.length)
  | notifyOnV1 {uptime : UInt32} {trapOid : Oid} {bindings : List VarBind} (v1 : version = .v1) :
    Refused version (.notify uptime trapOid bindings) .trapOnV1

/-- For an operation that is `Refused` nothing is done. -/
theorem Operation.perform_of_refused {m : Type → Type} [Monad m] [LawfulMonad m]
    (session : Session m) {operation : Operation} {fault : UsageFault}
    (refused : operation.Refused session.settings.version fault) :
    operation.perform session = pure (.error (.usage fault)) := by
  cases refused with
  | @unconfirmed uptime trapOid bindings =>
    rw [perform, session.execute_of_refusal rfl, pure_bind]
    rfl
  | @bulkOnV1 oids nonRepeaters maxRepetitions v1 =>
    have refusal : (Request.getBulk oids nonRepeaters maxRepetitions).refusal?
        session.settings.version = some .v2PduOnV1 := by
      rw [v1]
      rfl
    rw [perform, session.execute_of_refusal refusal, pure_bind]
    rfl
  | @tooFewObjects oids nonRepeaters maxRepetitions v2c few =>
    have refusal := Request.refusal?_of_few few maxRepetitions
    rw [← v2c] at refusal
    rw [perform, session.execute_of_refusal refusal, pure_bind]
    rfl
  | @notifyOnV1 uptime trapOid bindings v1 =>
    have refusal : (Request.trap uptime trapOid bindings).check session.settings.version
        = .error .trapOnV1 := by
      rw [v1]
      rfl
    rw [perform, session.notify_of_refusal refusal, pure_bind]
    rfl

/-! ## Runs of actions -/

/-- What can be done with a session and the walks over it. -/
inductive Action where
  | call (operation : Operation)
  /-- Begin a walk, beside those that are in progress. -/
  | walk (root : Oid) (options : WalkOptions)
  /-- Take the next report of the walk that was begun after so many others. -/
  | poll (index : Nat)
  deriving DecidableEq, Repr

/-- What comes of an action. -/
inductive Outcome where
  | called (outcome : Except Error (Option Response))
  | begun
  | polled (report : Option Walk.Item)

/-- Do it, with the walks in progress. -/
def Action.perform {m : Type → Type} [Monad m] (session : Session m) (walks : List Walk) :
    Action → m (Outcome × List Walk)
  | .call operation => do return (.called (← operation.perform session), walks)
  | .walk root options => return (.begun, walks ++ [Walk.start root options])
  | .poll index =>
    match walks[index]? with
    | none => return (.polled none, walks)
    | some current => do
      let (report, current) ← current.next session
      return (.polled report, walks.set index current)

/-- An action, what came of it, and what went over the channel meanwhile. -/
structure Turn where
  action : Action
  outcome : Outcome
  ids : List Int32
  sent : List Octets

/-- What is sent in a turn may be sent, and what is refused does not even take an id. -/
structure Turn.Safe (settings : SessionSettings) (turn : Turn) : Prop where
  permitted : ∀ data ∈ turn.sent, Octets.Carry (Message.Permitted settings.version) data
  /-- Only a notification is sent as one. -/
  asks : (∀ uptime trapOid bindings, turn.action ≠ .call (.notify uptime trapOid bindings)) →
    ∀ data ∈ turn.sent, Octets.Carry (fun message => message.pdu.kind ≠ .trapV2) data
  refused : ∀ operation fault, turn.action = .call operation →
    operation.Refused settings.version fault →
    turn.outcome = .called (.error (.usage fault)) ∧ turn.ids = [] ∧ turn.sent = []

variable {σ : Type} (inner : Channel (StateM σ)) (settings : SessionSettings)

/-- What holds of every message that an action may send holds of those it sends: a call sends its
own request, and a poll that of its walk. -/
theorem Action.perform_holds {kind : Octets → Prop} (action : Action) (walks : List Walk)
    (asks : ∀ request : Request, request.refusal? settings.version = none →
      ∀ requestId, kind (Session.message settings request requestId).encode)
    (notifies : ∀ uptime trapOid bindings, action = .call (.notify uptime trapOid bindings) →
      (Request.trap uptime trapOid bindings).check settings.version = .ok () →
      ∀ requestId,
        kind (Session.message settings (.trap uptime trapOid bindings) requestId).encode)
    {ledger : Ledger σ} (held : ledger.Holds kind) :
    Ensures (action.perform (Session.ledgered inner settings) walks) ledger fun _ after =>
      after.Holds kind := by
  cases action with
  | call operation =>
    refine ensures_bind ?_
    cases operation with
    | execute request =>
      exact ensures_bind (Session.execute_holds inner settings request (asks request) held)
    | notify uptime trapOid bindings =>
      exact ensures_bind (Session.notify_holds inner settings uptime trapOid bindings
        (notifies uptime trapOid bindings rfl) held)
  | walk root options => exact held
  | poll index =>
    rw [perform]
    split
    case h_1 => exact held
    case h_2 walk _ =>
      -- whatever a walk asks, its session checks
      have preserved : Walk.Preserved (Session.ledgered inner settings).execute
          fun _ _ ledger => ledger.Holds kind :=
        ⟨id, fun held _ _ => Session.execute_holds inner settings _ (asks _) held⟩
      exact ensures_bind (preserved.next held)

namespace Session

/-- Actions one after another, each with a ledger of its own. -/
def turns : List Action → List Walk → σ → Int32 → List Turn
  | [], _, _, _ => []
  | action :: rest, walks, world, nextId =>
    let result := (action.perform (ledgered inner settings) walks).run { world, nextId }
    ⟨action, result.1.1, result.2.ids, result.2.sent⟩
      :: turns rest result.1.2 result.2.world result.2.nextId

/-- The step lemma: what one action does is `Safe`. -/
theorem perform_safe (action : Action) (walks : List Walk) (world : σ) (nextId : Int32) :
    Ensures (action.perform (ledgered inner settings) walks) { world, nextId } fun result after =>
      Turn.Safe settings ⟨action, result.1, after.ids, after.sent⟩ := by
  -- a turn has a ledger of its own, and nothing was sent before it
  have fresh (kind : Octets → Prop) : Ledger.Holds kind { world, nextId } :=
    fun data mem => absurd mem List.not_mem_nil
  refine ⟨?_, fun others => ?_, ?_⟩
  · refine action.perform_holds inner settings walks ?_ ?_ (fresh _)
    · exact fun request passed requestId =>
        (asks_message passed requestId).mono fun _ holds => holds.1
    · intro uptime trapOid bindings _ passed requestId
      have permitted := permitted_message passed requestId
      exact Octets.carry_encode permitted fun _ same => permitted.of_sameHeader same
  · refine action.perform_holds inner settings walks ?_ ?_ (fresh _)
    · exact fun request passed requestId =>
        (asks_message passed requestId).mono fun _ holds => holds.2
    · exact fun uptime trapOid bindings notifies =>
        absurd notifies (others uptime trapOid bindings)
  · rintro operation fault ⟨⟩ refused
    show Ensures (Action.perform (ledgered inner settings) walks (.call operation)) _
      fun result after => result.1 = _ ∧ after.ids = [] ∧ after.sent = []
    rw [Action.perform, Operation.perform_of_refused (ledgered inner settings) refused]
    exact ⟨rfl, rfl, rfl⟩

/-- By induction on the actions, with `perform_safe` for each: whatever is done with a session and
the walks over it, and whatever the agent does, no message is sent that may not be. -/
theorem turns_safe (actions : List Action) (walks : List Walk) (world : σ) (firstId : Int32) :
    ∀ turn ∈ turns inner settings actions walks world firstId, turn.Safe settings := by
  induction actions generalizing walks world firstId with
  | nil => exact fun turn mem => absurd mem List.not_mem_nil
  | cons action rest ih =>
    intro turn mem
    rw [turns, List.mem_cons] at mem
    rcases mem with rfl | mem
    · exact perform_safe inner settings action walks world firstId
    · exact ih _ _ _ turn mem

/-- Over version 1, neither a bulk request nor a notification nor a walk in bulk gets anything out,
and a plain request that nobody answers goes out twice. -/
theorem turns_safe_version1 :
    let counts : BulkCounts := ⟨0, 10⟩
    let agent : ScriptedAgent := { peer := ⟨.v4 ⟨127, 0, 0, 1⟩, 161⟩ }
    let settings : SessionSettings := { version := .v1, retries := 1 }
    let run := turns (ScriptedAgent.channel agent.peer false) settings
      [.call (.execute (.getBulk [⟨[1, 3]⟩] 0 10)), .call (.notify 7 ⟨[1, 3, 6]⟩ []),
        .walk ⟨[1, 3]⟩ { bulk := some counts }, .poll 0, .call (.execute (.get [⟨[1, 3]⟩]))]
      [] agent 1
    run.map (fun turn => turn.sent.length) = [0, 0, 0, 0, 2] ∧
      ∃ turn, run[4]? = some turn ∧ turn.Safe settings := by
  intro counts agent settings run
  have lengths : run.map (fun turn => turn.sent.length) = [0, 0, 0, 0, 2] := by decide +kernel
  refine ⟨lengths, ?_⟩
  have five : 4 < run.length := by
    rw [← List.length_map (fun turn : Turn => turn.sent.length), lengths]
    decide
  refine ⟨run[4], List.getElem?_eq_getElem five, ?_⟩
  exact turns_safe _ settings _ [] agent 1 _ (List.getElem_mem five)

end Session

end SnmpManager
