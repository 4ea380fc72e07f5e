import SnmpManager.Proofs.Command.Typed
import SnmpManager.Proofs.Message.RoundTrip
import SnmpManager.Proofs.Session.Sent
import SnmpManager.Run.Rehearsal

/-!
# Notifications as sent

A notification whose parts are all right is sent once, and says what was typed
(`Config.runSession_notifies`). One with a part that is wrong fails as that part does,
and nothing is sent for it.

- `Message.Announces`: a message that says what was typed.
- `Notification.Delivered`: what came of a notification, and what was sent for it.
-/

namespace SnmpManager

/-! ## What a notification says -/

/-- The ticks of an uptime, of which 32 bits are sent. -/
def Uptime.total (hostTicks : UInt64) : Uptime → Nat
  | .now => hostTicks.toNat
  | .ticks n => n.toNat

/-- What is sent of an uptime are the last 32 bits of its `total`. -/
theorem Uptime.toNat_onWire (uptime : Uptime) (hostTicks : UInt64) :
    (uptime.onWire hostTicks).toNat = uptime.total hostTicks % 2 ^ 32 := by
  cases uptime with
  | now => exact UInt64.toNat_toUInt32 hostTicks
  | ticks n => exact UInt64.toNat_toUInt32 n

/-- All objects in a message: those of its bindings and those that are values. -/
def Message.objects (message : Message) : List Oid :=
  message.pdu.bindings.flatMap fun binding => binding.oid :: binding.value.oid?.toList

/-- A message that says what was typed for a notification, on a host that has been up for so many
ticks. -/
structure Message.Announces (settings : SessionSettings) (hostTicks : UInt64)
    (uptime trapOid : String) (typed : List TypedBinding) (message : Message) : Prop where
  version : message.version = .v2c
  community : message.community = settings.community
  kind : message.pdu.kind = .trapV2
  errorStatus : message.pdu.errorStatus = 0
  errorIndex : message.pdu.errorIndex = 0
  bindings : ∃ since ticks oid values, Uptime.parse uptime = .ok since ∧
    ticks.toNat = since.total hostTicks % 2 ^ 32 ∧ Mib.resolve trapOid = .ok oid ∧
    List.Forall₂ TypedBinding.Means typed values ∧
    message.pdu.bindings = ⟨Pdu.sysUpTime, .timeTicks ticks⟩ ::
      ⟨Pdu.snmpTrapOid, .objectIdentifier oid⟩ :: values

/-- A message that `Announces` what was typed can be read back if all its objects can. -/
theorem Message.Announces.encodable {settings : SessionSettings} {hostTicks : UInt64}
    {uptime trapOid : String} {typed : List TypedBinding} {message : Message}
    (h : message.Announces settings hostTicks uptime trapOid typed)
    (objects : ∀ oid ∈ message.objects, oid.Encodable) : message.Encodable := by
  obtain ⟨since, ticks, oid, values, -, -, -, means, bindings⟩ := h.bindings
  have parts (binding : VarBind) (mem : binding ∈ message.pdu.bindings) :
      binding.oid.Encodable ∧ ∀ oid ∈ binding.value.oid?, oid.Encodable := by
    refine ⟨objects _ (List.mem_flatMap.mpr ⟨binding, mem, List.mem_cons_self⟩), ?_⟩
    intro oid within
    refine objects _ (List.mem_flatMap.mpr ⟨binding, mem, List.mem_cons_of_mem _ ?_⟩)
    exact Option.mem_toList.mpr within
  intro binding mem
  refine ⟨(parts binding mem).1, ?_⟩
  have object := (parts binding mem).2
  rw [bindings, List.mem_cons, List.mem_cons] at mem
  rcases mem with rfl | rfl | mem
  · trivial
  · exact object oid rfl
  · obtain ⟨words, meant⟩ := TypedBinding.exists_means means binding mem
    exact Literal.encodable_of_parse meant.value object

/-- What came of a notification, and what was sent for it. -/
structure Notification.Delivered (settings : SessionSettings) (hostTicks : UInt64)
    (uptime trapOid : String) (typed : List TypedBinding) (outcome : Except Error Completion)
    (sent : List Octets) : Prop where
  atMostOne : sent.length ≤ 1
  /-- Nothing is sent exactly if some part is wrong. -/
  silent_iff : sent = [] ↔ ∃ error, some error ∈ Notification.faults uptime trapOid typed
  /-- The first part that is wrong is what the command fails with. -/
  failed : ∀ error, firstFault (Notification.faults uptime trapOid typed) = some error →
    outcome = .error error
  faithful : ∀ data ∈ sent, ∃ message, message.encode = data ∧
    message.Announces settings hostTicks uptime trapOid typed ∧
    ((∀ oid ∈ message.objects, oid.Encodable) → message.content.length ≤ Length.max →
      Message.decode data = .ok message)

namespace Notification

section

variable {settings : SessionSettings} (hostTicks : UInt64) {uptime trapOid : String}
  {typed : List TypedBinding}

/-- A notification with a part that is wrong fails as that part does, before anything is sent; so it
is `Delivered`. -/
theorem delivered_of_error {error : Error} (wrong : ofTexts uptime trapOid typed = .error error) :
    Delivered settings hostTicks uptime trapOid typed (.error error) [] := by
  have first : firstFault (faults uptime trapOid typed) = some error := by
    rw [← fault?_ofTexts, wrong]
    rfl
  refine ⟨Nat.zero_le 1, ?_, ?_, fun data mem => absurd mem List.not_mem_nil⟩
  · exact ⟨fun _ => exists_fault_iff.mpr ⟨error, first⟩, fun _ => rfl⟩
  · intro error' first'
    rw [first] at first'
    cases first'
    rfl

/-- The message for a notification. -/
def message (settings : SessionSettings) (hostTicks : UInt64) (notification : Notification)
    (requestId : Int32) : Message :=
  Session.message settings (.trap (notification.uptime.onWire hostTicks) notification.trapOid
    notification.bindings) requestId

/-- The `message` for a notification says what was typed. -/
theorem announces_message (v2c : settings.version = .v2c) {notification : Notification}
    (right : ofTexts uptime trapOid typed = .ok notification) (requestId : Int32) :
    (message settings hostTicks notification requestId).Announces settings hostTicks uptime
      trapOid typed := by
  obtain ⟨parsed, resolved, means⟩ := parts_of_ofTexts right
  refine ⟨v2c, rfl, rfl, rfl, rfl, ?_⟩
  exact ⟨notification.uptime, _, notification.trapOid, notification.bindings, parsed,
    notification.uptime.toNat_onWire hostTicks, resolved, means, rfl⟩

/-- A notification whose parts are all right is sent as its `message`, whatever comes of sending
it. -/
theorem delivered_of_ok (v2c : settings.version = .v2c) {notification : Notification}
    (right : ofTexts uptime trapOid typed = .ok notification) (requestId : Int32)
    (outcome : Except Error Completion) :
    Delivered settings hostTicks uptime trapOid typed outcome
      [(message settings hostTicks notification requestId).encode] := by
  have first : firstFault (faults uptime trapOid typed) = none := by
    rw [← fault?_ofTexts, right]
    rfl
  refine ⟨Nat.le_refl 1, ⟨fun silent => ?_, fun wrong => ?_⟩, fun error wrong => ?_, ?_⟩
  · cases silent
  · obtain ⟨error, wrong⟩ := exists_fault_iff.mp wrong
    rw [first] at wrong
    cases wrong
  · rw [first] at wrong
    cases wrong
  · intro data mem
    have announces := announces_message hostTicks v2c right requestId
    refine ⟨_, (List.mem_singleton.mp mem).symm, announces, fun objects short => ?_⟩
    rw [List.mem_singleton.mp mem, Message.encode_eq]
    exact Message.decode_content (announces.encodable objects) short

end

end Notification

namespace Config

variable {σ : Type} (inner : Channel (StateM σ)) (hostUptime : StateM σ UInt64)

/-- A notification is put together by `Notification.ofTexts` first. -/
theorem runTrap_words {τ : Type} (session : Session (StateM τ)) (hostUptime : StateM τ UInt64)
    (uptime trapOid : String) (typed : List TypedBinding) :
    runTrap session hostUptime uptime trapOid (typed.flatMap TypedBinding.words) = (do
      let trap ← ExceptT.mk (pure (Notification.ofTexts uptime trapOid typed))
      let ticks := trap.uptime.onWire (← ExceptT.lift hostUptime)
      ExceptT.mk (session.notify ticks trap.trapOid trap.bindings)) := by
  rw [runTrap, TypedBinding.triples, TypedBinding.triples?_flatMap_words, Notification.ofTexts]
  cases Uptime.parse uptime with
  | error error => rfl
  | ok since => rfl

/-- `runTrap` sends a notification once, or not at all if a part of it is wrong. -/
theorem runTrap_sends {settings : SessionSettings} (v2c : settings.version = .v2c)
    (uptime trapOid : String) (typed : List TypedBinding) (world : σ) (nextId : Int32) :
    Ensures (runTrap (Session.ledgered inner settings) (Ledger.onWorld hostUptime) uptime trapOid
      (typed.flatMap TypedBinding.words)).run { world, nextId } fun outcome after =>
        match Notification.ofTexts uptime trapOid typed with
        | .error error => outcome = .error error ∧ after.sent = []
        | .ok notification => after.sent
            = [(notification.message settings (hostUptime.run world).1 nextId).encode] := by
  rw [runTrap_words]
  refine ensures_pure_bind ?_ fun notification typedOk => ensures_lift_bind ?_
  · intro error wrong
    rw [wrong]
    exact ⟨rfl, rfl⟩
  · rw [typedOk]
    exact Session.notify_sends inner settings v2c
      (notification.uptime.onWire (hostUptime.run world).1) notification.trapOid
      notification.bindings { world := (hostUptime.run world).2, nextId }

/-- Inversion of `readTarget`: the target of a notification is what comes after the agent, three by
three after the first two. -/
theorem notification_of_readTarget {args : List String} {agent : Option String} {target : Target}
    (h : readTarget .trap args = .ok (agent, target)) :
    ∃ name uptime trapOid, ∃ typed : List TypedBinding,
      args = name :: uptime :: trapOid :: typed.flatMap TypedBinding.words ∧
        target = .notification uptime trapOid (typed.flatMap TypedBinding.words) := by
  unfold readTarget at h
  dsimp only at h
  split at h
  case h_1 name uptime trapOid bindings =>
    split at h
    case isTrue whole =>
      cases h
      obtain ⟨typed, rfl⟩ := TypedBinding.exists_words whole
      exact ⟨name, uptime, trapOid, typed, rfl, rfl⟩
    case isFalse => cases h
  case h_2 => cases h

/-- `runSession` for a notification is `runTrap`, which is where `Delivered` is decided. -/
theorem runSession_trap_ensures {config : Config} (command : config.command = .trap)
    {uptime trapOid : String} {typed : List TypedBinding}
    (target : config.target
      = .notification uptime trapOid (typed.flatMap TypedBinding.words))
    {session : SessionSettings} (v2c : session.version = .v2c) (terminal : Terminal (StateM σ))
    (reports : Nat) (world : σ) (nextId : Int32) :
    Ensures (config.runSession (Session.ledgered inner session) (terminal.lift Ledger.onWorld)
      (Ledger.onWorld hostUptime) reports).run { world, nextId } fun outcome after =>
        Notification.Delivered session (hostUptime.run world).1 uptime trapOid typed outcome
          after.sent := by
  have runs : config.runSession (Session.ledgered inner session) (terminal.lift Ledger.onWorld)
      (Ledger.onWorld hostUptime) reports = (do
        runTrap (Session.ledgered inner session) (Ledger.onWorld hostUptime) uptime trapOid
          (typed.flatMap TypedBinding.words)
        return .finished) := by
    rw [runSession, request?, target, command]
  rw [runs]
  refine ensures_run_bind (ensures_mono
    (runTrap_sends inner hostUptime v2c uptime trapOid typed world nextId) ?_)
  intro outcome after sends
  split at sends
  case h_1 error wrong =>
    obtain ⟨rfl, silent⟩ := sends
    rw [silent]
    exact Notification.delivered_of_error _ wrong
  case h_2 notification right =>
    have delivered :=
      Notification.delivered_of_ok (hostUptime.run world).1 v2c right nextId
    rw [← sends] at delivered
    -- nothing is sent after the notification, however that ended
    cases outcome with
    | error e => exact delivered (.error e)
    | ok _ => exact delivered (.ok .finished)

/-- Whatever the agent and the terminal do, a notification is sent once and `Announces` what was
typed, or else a part of it is wrong: then nothing is sent, and the first such part is what the
command fails with. -/
theorem runSession_notifies {session : SessionSettings} {settings : Settings} {args : List String}
    {config : Config} (made : make .trap session settings args = .ok config)
    (inner : Channel (StateM σ)) (terminal : Terminal (StateM σ)) (hostUptime : StateM σ UInt64)
    (reports : Nat) (world : σ) (nextId : Int32) :
    ∃ agent uptime trapOid typed,
      (if settings.request.endOid = some .nextArgument then args.tail else args)
        = agent :: uptime :: trapOid :: typed.flatMap TypedBinding.words ∧
      let result := (config.runSession (Session.ledgered inner session)
        (terminal.lift Ledger.onWorld) (Ledger.onWorld hostUptime) reports).run.run
        { world, nextId }
      Notification.Delivered session (hostUptime.run world).1 uptime trapOid typed result.1
        result.2.sent := by
  obtain ⟨_, carried, made⟩ := bind_eq_ok made
  obtain ⟨⟨bound, rest⟩, taken, made⟩ := bind_eq_ok made
  obtain ⟨⟨agent, target⟩, read, made⟩ := bind_eq_ok made
  cases made
  obtain ⟨name, uptime, trapOid, typed, positional, rfl⟩ := notification_of_readTarget read
  refine ⟨name, uptime, trapOid, typed, ?_, ?_⟩
  · rw [← args_of_takeEnd taken, positional]
  have v2c : session.version = .v2c := v2c_of_checkVersion (.inr (.inr rfl)) carried
  exact runSession_trap_ensures inner hostUptime rfl rfl v2c terminal reports world nextId

/-- A link that went down, on a host whose uptime takes more than 32 bits. -/
theorem runSession_notifies_linkDown :
    let words := ["ifIndex.2", "i", "2", "ifDescr.2", "s", "em0", "ifIndex.2", "i", "2"]
    let config : Config := ⟨.trap, some "gw", .notification "" "linkDown" words, {}, {}, {}, {}⟩
    let agent : ScriptedAgent := { peer := ⟨.v4 ⟨127, 0, 0, 1⟩, 162⟩ }
    let terminal : Terminal (StateM ScriptedAgent) :=
      ⟨fun _ => pure (.ok ()), fun _ => pure (.ok ())⟩
    let result := (config.runSession
      (Session.ledgered (ScriptedAgent.channel agent.peer false) {})
      (terminal.lift Ledger.onWorld) (Ledger.onWorld (pure 0x100000007)) 0).run.run
      { world := agent, nextId := 1 }
    let index : VarBind := ⟨⟨[1, 3, 6, 1, 2, 1, 2, 2, 1, 1, 2]⟩, .integer 2⟩
    make .trap {} {} ("gw" :: "" :: "linkDown" :: words) = .ok config ∧
    result.2.sent.map Message.decode = [.ok ⟨.v2c, SessionSettings.community {},
      ⟨.trapV2, 1, 0, 0, [⟨Pdu.sysUpTime, .timeTicks 7⟩,
        ⟨Pdu.snmpTrapOid, .objectIdentifier ⟨[1, 3, 6, 1, 6, 3, 1, 1, 5, 3]⟩⟩, index,
        ⟨⟨[1, 3, 6, 1, 2, 1, 2, 2, 1, 2, 2]⟩, .octetString [0x65, 0x6D, 0x30]⟩, index]⟩⟩] ∧
    ∃ agent uptime trapOid typed,
      "gw" :: "" :: "linkDown" :: words
        = agent :: uptime :: trapOid :: typed.flatMap TypedBinding.words ∧
      Notification.Delivered {} 0x100000007 uptime trapOid typed result.1 result.2.sent := by
  intro words config agent terminal result index
  have made : make .trap {} {} ("gw" :: "" :: "linkDown" :: words) = .ok config := by
    decide +kernel
  refine ⟨made, by decide +kernel, ?_⟩
  exact runSession_notifies made _ terminal (pure 0x100000007) 0 agent 1

end Config

end SnmpManager
