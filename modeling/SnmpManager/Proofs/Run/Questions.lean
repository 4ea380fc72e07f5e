import SnmpManager.Proofs.Command.Named
import SnmpManager.Proofs.Message.Asking
import SnmpManager.Proofs.Message.Decoded
import SnmpManager.Proofs.Message.Size
import SnmpManager.Proofs.Session.Lifted
import SnmpManager.Proofs.Session.Retries
import SnmpManager.Proofs.Session.Sent
import SnmpManager.Proofs.Walk.Polls
import SnmpManager.Proofs.Walk.Reference
import SnmpManager.Run.Rehearsal

/-!
# What an agent is asked

Whatever an agent answers, a run asks it about the objects that the user named, and
a walk also about objects it found under its root. On the wire these objects are
what they were, or the first child of what has no octets of its own
(`Config.runSession_asks_named`). They are not always what the user named, and a
message that is too long arrives as none (`Config.runSession_asks_otherwise`).

- `Asked`: a message that asks about some objects.
- `Keeps`: an action that may fail and keeps an invariant.
- `Walk.Pursues`: where a walk under some root can be.
-/

namespace SnmpManager

variable {σ : Type}

/-! ## Messages sent -/

/-- A message that asks about some objects. -/
def Asked (settings : SessionSettings) (objects : List Oid → Prop) (data : Octets) : Prop :=
  ∃ request requestId, data = (Session.message settings request requestId).encode ∧
    request.isAnswered = true ∧ objects request.requested

/-- What is read where a message was sent that is `Asked` about some objects, if they can be
written: a message about objects that they arrive as. -/
theorem Asked.read {settings : SessionSettings} {objects : List Oid → Prop} {data : Octets}
    (h : Asked settings objects data)
    (writable : ∀ oids, objects oids → ∀ oid ∈ oids, oid.Writable) :
    ∃ message asked, message.encode = data ∧ objects asked ∧
      (message.content.length ≤ Length.max → Message.decode data = .ok message) ∧
      List.Forall₂ Oid.ArrivesAs asked (message.pdu.bindings.map VarBind.oid) := by
  obtain ⟨request, requestId, sent, answered, asks⟩ := h
  rw [sent]
  refine ⟨Session.message settings request.onWire requestId, request.requested,
    Session.encode_message_onWire .., asks,
    Session.decode_message answered (writable _ asks), ?_⟩
  have answered : request.onWire.isAnswered = true := by rw [Request.isAnswered_onWire, answered]
  have objects : ((request.onWire.pdu requestId).bindings).map VarBind.oid
      = request.requested.map Oid.onWire := by
    rw [Request.bindings_pdu answered, Request.requested_onWire, List.map_map, List.map_map]
    rfl
  rw [Session.message, objects, List.forall₂_map_right_iff, List.forall₂_same]
  exact fun oid mem => Oid.arrivesAs_onWire (writable _ asks oid mem)

variable {kind : Octets → Prop}

/-! ## Actions that may fail -/

/-- An action keeps an invariant of the state, and what it gives, if anything, is as `post` says. -/
def Keeps {ε α : Type} (inv : σ → Prop) (action : ExceptT ε (StateM σ) α) (post : α → Prop) :
    Prop :=
  ∀ before, inv before → Ensures action.run before fun outcome after =>
    inv after ∧ ∀ a, outcome = .ok a → post a

section

variable {ε α β : Type} {inv : σ → Prop}

theorem keeps_pure {a : α} {post : α → Prop} (h : post a) :
    Keeps inv (pure a : ExceptT ε (StateM σ) α) post := by
  refine fun before kept => ⟨kept, ?_⟩
  rintro _ ⟨⟩
  exact h

theorem keeps_mk {action : StateM σ (Except ε α)} {post : α → Prop}
    (h : ∀ before, inv before → Ensures action before fun outcome after =>
      inv after ∧ ∀ a, outcome = .ok a → post a) : Keeps inv (ExceptT.mk action) post :=
  h

theorem keeps_lift {action : StateM σ α} {post : α → Prop}
    (h : ∀ before, inv before → Ensures action before fun a after => inv after ∧ post a) :
    Keeps inv (ExceptT.lift action : ExceptT ε (StateM σ) α) post := by
  intro before kept
  obtain ⟨after, gives⟩ := h before kept
  refine ⟨after, ?_⟩
  rintro _ ⟨⟩
  exact gives

/-- Both parts of an action keep the invariant, so `bind` of them `Keeps` it; the second starts from
what the first gives. -/
theorem Keeps.bind {first : ExceptT ε (StateM σ) α} {second : α → ExceptT ε (StateM σ) β}
    {post : α → Prop} {post' : β → Prop} (h : Keeps inv first post)
    (h' : ∀ a, post a → Keeps inv (second a) post') : Keeps inv (first >>= second) post' := by
  intro before kept
  refine ensures_run_bind (ensures_mono (h before kept) ?_)
  rintro (e | a) between ⟨kept, gives⟩
  · exact ⟨kept, fun _ ok => nomatch ok⟩
  · exact h' a (gives a rfl) between kept

/-- What an action `Keeps`, it leaves behind if it holds of an empty ledger. -/
theorem Keeps.of_empty {inv : Ledger σ → Prop} {action : ExceptT ε (StateM (Ledger σ)) α}
    {post : α → Prop} (h : Keeps inv action post) {world : σ} {nextId : Int32}
    (empty : inv { world, nextId }) : inv (action.run.run { world, nextId }).2 :=
  (h { world, nextId } empty).1

/-- An action that may be left out. -/
theorem Keeps.optional {condition : Prop} [Decidable condition] {first : ExceptT ε (StateM σ) Unit}
    {second : Unit → ExceptT ε (StateM σ) β} {post : β → Prop}
    (h : Keeps inv first fun _ => True) (h' : Keeps inv (second ()) post) :
    Keeps inv (if condition then first >>= second else second ()) post := by
  split
  case isTrue => exact h.bind fun _ _ => h'
  case isFalse => exact h'

end

/-! ## Where a walk can be -/

/-- An object that is in a message among the octets received. -/
def Heard (received : List Octets) (oid : Oid) : Prop :=
  ∃ data ∈ received, ∃ message, Message.decode data = .ok message ∧
    ∃ binding ∈ message.pdu.bindings, binding.oid = oid

/-- What was `Heard` once was heard, however much is received after it. -/
theorem Heard.mono {received more : List Octets} {oid : Oid} (h : Heard received oid)
    (later : received ⊆ more) : Heard more oid := by
  obtain ⟨data, mem, from_⟩ := h
  exact ⟨data, later mem, from_⟩

/-- What was `Heard` was decoded, so it can be sent as it is. -/
theorem Heard.encodable {received : List Octets} {oid : Oid} (h : Heard received oid) :
    oid.Encodable := by
  obtain ⟨data, -, message, decoded, binding, mem, rfl⟩ := h
  exact Message.decode_encodable decoded binding mem

namespace Walk

/-- An object that a walk under some root asks about: the root, or an object it received that lies
under the root. -/
def InReach (root : Oid) (received : List Octets) (oid : Oid) : Prop :=
  oid = root ∨ root.isBelow oid = true ∧ Heard received oid

/-- A walk under some root, after some octets were received. -/
structure Pursues (root : Oid) (received : List Octets) (walk : Walk) : Prop where
  sameRoot : walk.root = root
  cursor : InReach root received walk.cursor
  buffer : ∀ binding ∈ walk.buffer, Heard received binding.oid

theorem pursues_start (root : Oid) (options : WalkOptions) (received : List Octets) :
    Pursues root received (start root options) :=
  ⟨rfl, .inl rfl, fun _ mem => absurd mem List.not_mem_nil⟩

theorem InReach.mono {root oid : Oid} {received more : List Octets} (h : InReach root received oid)
    (later : received ⊆ more) : InReach root more oid :=
  h.imp_right fun ⟨below, heard⟩ => ⟨below, heard.mono later⟩

variable {root : Oid} {received : List Octets} {walk : Walk}

theorem Pursues.mono (h : Pursues root received walk) {more : List Octets}
    (later : received ⊆ more) : Pursues root more walk :=
  ⟨h.sameRoot, h.cursor.mono later, fun binding mem => (h.buffer binding mem).mono later⟩

/-- A walk that has nothing more to judge `Pursues` its root from where it is. -/
theorem Pursues.of_empty (h : Pursues root received walk) {after : Walk}
    (same : after.root = walk.root) (cursor : after.cursor = walk.cursor)
    (empty : after.buffer = []) : Pursues root received after :=
  ⟨same.trans h.sameRoot, cursor ▸ h.cursor, fun _ mem => absurd (empty ▸ mem) List.not_mem_nil⟩

/-- Judging a binding moves the cursor only to an object that was received and is below the root, so
it stays `InReach`. -/
theorem Pursues.drain (h : Pursues root received walk) : Pursues root received walk.drain.2 := by
  rw [Walk.drain]
  split
  case h_1 => exact h
  case h_2 binding rest filled =>
    have heard := h.buffer
    rw [filled] at heard
    obtain ⟨first, others⟩ := List.forall_mem_cons.mp heard
    dsimp only
    split
    case h_1 verdict =>
      have below := (Oid.isBelow_iff ..).mpr (acceptable_of_judge verdict).below
      exact ⟨h.sameRoot, .inr ⟨h.sameRoot ▸ below, first⟩, others⟩
    case h_2 => exact h.of_empty rfl rfl rfl
    case h_3 => exact h.of_empty rfl rfl rfl

/-- The bindings of an answer go into the buffer, and there they have been `Heard`. -/
theorem Pursues.absorb (h : Pursues root received walk) (empty : walk.buffer = [])
    {outcome : Except Error Response}
    (heard : ∀ response, outcome = .ok response →
      ∀ binding ∈ response.bindings, Heard received binding.oid) :
    Pursues root received (walk.absorb outcome).2 := by
  cases outcome with
  | error e => exact h.of_empty rfl rfl rfl
  | ok response =>
    -- an answer about the root itself is reported, but the cursor stays
    have about_root : Pursues root received (walk.absorbRoot response).2 := by
      rw [absorbRoot]
      split
      case h_1 => exact h.of_empty rfl rfl rfl
      case h_2 => exact h.of_empty rfl rfl empty
      case h_3 => exact h.of_empty rfl rfl empty
    rw [Walk.absorb]
    split
    case h_1 =>
      rw [absorbBatch]
      split
      case isTrue => exact h.of_empty rfl rfl rfl
      case isFalse =>
        split
        case isTrue => exact h.of_empty rfl rfl rfl
        case isFalse => exact ⟨h.sameRoot, h.cursor, heard response rfl⟩
    case h_2 => exact about_root

/-- A walk asks about one object at a time, the one at its cursor, which is `InReach`. -/
theorem Pursues.asks (h : Pursues root received walk) {request : Request}
    (asks : walk.request? = some request) :
    request.isAnswered = true ∧ ∃ oid, request.requested = [oid] ∧ InReach root received oid := by
  rw [request?] at asks
  split at asks
  case h_1 => cases asks
  case h_2 =>
    split at asks
    · cases asks
      exact ⟨rfl, walk.cursor, rfl, h.cursor⟩
    · cases asks
      exact ⟨rfl, walk.cursor, rfl, h.cursor⟩
  case h_3 =>
    cases asks
    exact ⟨rfl, walk.root, rfl, .inl h.sameRoot⟩
  case h_4 =>
    cases asks
    exact ⟨rfl, walk.root, rfl, .inl h.sameRoot⟩

variable (inner : Channel (StateM σ)) (settings : SessionSettings)

/-- The messages that ask about one object `InReach` of a walk. -/
def Asking (root : Oid) (received : List Octets) : Octets → Prop :=
  Asked settings fun oids => ∃ oid, oids = [oid] ∧ InReach root received oid

theorem Asking.mono {received more : List Octets} {data : Octets}
    (h : Asking settings root received data) (later : received ⊆ more) :
    Asking settings root more data := by
  obtain ⟨request, requestId, sent, answered, oid, about, reach⟩ := h
  exact ⟨request, requestId, sent, answered, oid, about, reach.mono later⟩

/-- Every message sent is `Asking` about an object in reach, after what was received. -/
def Grounded (root : Oid) (ledger : Ledger σ) : Prop :=
  ledger.Holds (Asking settings root ledger.received)

/-- The objects in an answer were `Heard` in the exchange that it ends. -/
theorem heard_of_answer {expected : Expected} {data : Octets} {response : Response}
    (meaning : interpret expected data = .ok (.answer response)) (mem : data ∈ received) :
    ∀ binding ∈ response.bindings, Heard received binding.oid := by
  obtain ⟨message, decoded, -, -, -, rfl⟩ := interpret_eq_answer_iff.mp meaning
  exact fun binding inMessage => ⟨data, mem, message, decoded, binding, inMessage, rfl⟩

/-- The step lemma: each round trip of a walk that `Pursues` a root asks about what it is at, and
leaves it in reach. -/
theorem preserved_pursues (root : Oid) :
    Preserved (Session.ledgered inner settings).execute fun _ walk ledger =>
      Grounded settings root ledger ∧ Pursues root ledger.received walk where
  drain {walk ledger} h := ⟨h.1, h.2.drain⟩
  absorb {walk ledger request} h empty asks := by
    obtain ⟨held, pursues⟩ := h
    obtain ⟨answered, oid, about, reach⟩ := pursues.asks asks
    refine ensures_mono (Session.execute_ensures inner settings request ledger) ?_
    rintro outcome _ ⟨count, world, received, rfl, answers⟩
    have later : ledger.received ⊆ ledger.received ++ received := List.subset_append_left _ _
    refine ⟨?_, (pursues.mono later).absorb empty ?_⟩
    -- what was asked before stays in reach, and so does what was asked now
    · have before : ledger.Holds (Asking settings root (ledger.received ++ received)) :=
        fun data mem => (held data mem).mono settings later
      exact before.advance (fun requestId =>
        ⟨request, requestId, rfl, answered, oid, about, reach.mono later⟩) count world received
    · intro response isAnswer
      obtain ⟨_, -, data, mem, meaning⟩ := answers response isAnswer
      exact heard_of_answer meaning (List.mem_append_right _ mem)

end Walk

/-! ## Whole runs -/

/-- An agent that never answers, over a stream. -/
def ScriptedAgent.mute : ScriptedAgent where
  peer := ⟨.v4 ⟨127, 0, 0, 1⟩, 161⟩
  isStream := true

namespace Config

/-- A command that asks once has one request to make, about its objects. -/
theorem exists_request_of_asking {config : Config} {oids : List Oid}
    (asks : config.command ∈ asking) (target : config.target = .objects oids) :
    ∃ request, config.request? = some request ∧ request.isAnswered = true ∧
      request.requested = oids := by
  simp only [asking, List.mem_cons, List.not_mem_nil, or_false] at asks
  obtain asks | asks | asks := asks <;>
    exact ⟨_, by rw [request?, target, asks], rfl, rfl⟩

/-- A command that walks does nothing else than `runWalk`. -/
theorem runSession_of_walking {m : Type → Type} [Monad m] {config : Config} {root : Oid}
    (walks : config.command ∈ walking) (target : config.target = .subtree root)
    (session : Session m) (terminal : Terminal m) (hostUptime : m UInt64) (reports : Nat) :
    config.runSession session terminal hostUptime reports
      = runWalk session terminal config root reports := by
  simp only [walking, List.mem_cons, List.not_mem_nil, or_false] at walks
  obtain walks | walks := walks <;> rw [runSession, request?, target, walks]

/-- What does not depend on the state of the channel is kept by an action on it. -/
theorem keeps_onWorld {α : Type} {inv : Ledger σ → Prop}
    (frame : ∀ ledger world, inv ledger → inv { ledger with world })
    (action : StateM σ (Except Error α)) :
    Keeps inv (ExceptT.mk (Ledger.onWorld action)) fun _ => True :=
  keeps_mk fun ledger held => ⟨frame ledger _ held, fun _ _ => trivial⟩

section

variable (inner : Channel (StateM σ)) (settings : SessionSettings) (terminal : Terminal (StateM σ))
  (options : OutputOptions)

theorem printLines_keeps (bindings : List VarBind) :
    Keeps (Ledger.Holds kind) (printLines (terminal.lift Ledger.onWorld) options bindings)
      fun _ => True := by
  induction bindings with
  | nil => exact keeps_pure trivial
  | cons binding rest ih =>
    rw [printLines]
    exact (keeps_onWorld (fun _ _ held => held) _).bind fun _ _ => ih

/-- A request that goes out whatever its id keeps what `Holds` of the messages sent. -/
theorem ask_keeps {request : Request}
    (sends : ∀ requestId, kind (Session.message settings request requestId).encode) :
    Keeps (Ledger.Holds kind) (ask (Session.ledgered inner settings) request) fun _ => True := by
  rw [ask]
  have exchanges : Keeps (Ledger.Holds kind)
      (ExceptT.mk ((Session.ledgered inner settings).execute request)) fun _ => True :=
    keeps_mk fun _ held => ensures_mono
      (Session.execute_holds inner settings request (fun _ => sends) held)
      fun _ _ held => ⟨held, fun _ _ => trivial⟩
  -- a refusal by the agent ends the command, but nothing is sent for it
  exact exchanges.bind fun _ _ => keeps_mk fun _ held => ⟨held, fun _ _ => trivial⟩

/-- By induction on the reports, with `preserved_pursues` for each: poll by poll a walk asks about
what is in reach, whatever is printed between. -/
theorem printWalk_grounded {root : Oid} (reports : Nat) {walk : Walk} {ledger : Ledger σ}
    (held : Walk.Grounded settings root ledger) (pursues : walk.Pursues root ledger.received) :
    Ensures (printWalk (Session.ledgered inner settings) (terminal.lift Ledger.onWorld) options
        reports walk).run ledger fun _ after => Walk.Grounded settings root after := by
  induction reports generalizing walk ledger with
  | zero => exact held
  | succ reports ih =>
    rw [printWalk]
    refine ensures_lift_bind (ensures_mono
      ((Walk.preserved_pursues inner settings root).next ⟨held, pursues⟩) ?_)
    rintro ⟨item, after⟩ later ⟨held, pursues⟩
    match item with
    | none => exact held
    | some (.error error) => exact held
    | some (.ok binding) =>
      refine ensures_run_bind (ensures_mono (Session.onWorld_ensures _ later) ?_)
      rintro outcome _ ⟨world, rfl⟩
      cases outcome with
      | error e => exact held
      | ok _ => exact ih held pursues

/-- What `runWalk` prints besides the bindings of the walk sends nothing. -/
theorem runWalk_keeps (config : Config) (root : Oid) (reports : Nat) :
    Keeps (Walk.Grounded settings root)
      (runWalk (Session.ledgered inner settings) (terminal.lift Ledger.onWorld) config root
        reports) fun _ => True := by
  rw [runWalk]
  have frame (ledger : Ledger σ) (world : σ) (held : Walk.Grounded settings root ledger) :
      Walk.Grounded settings root { ledger with world } := held
  have looks : Keeps (Walk.Grounded settings root)
      (ExceptT.lift (Session.ledgered inner settings).channel.now : ExceptT Error _ Duration)
      fun _ => True := keeps_lift fun _ held => ⟨held, trivial⟩
  have walks : Keeps (Walk.Grounded settings root)
      (printWalk (Session.ledgered inner settings) (terminal.lift Ledger.onWorld) config.output
        reports (Walk.start root config.walk)) fun _ => True :=
    fun ledger held => ensures_mono
      (printWalk_grounded inner settings terminal config.output reports held
        (Walk.pursues_start root config.walk ledger.received))
      fun _ _ held => ⟨held, fun _ _ => trivial⟩
  refine looks.bind fun start _ => walks.bind ?_
  rintro (_ | walk) -
  · exact keeps_pure trivial
  refine looks.bind fun finish _ => ?_
  -- the summary and the time are printed or not, one after the other
  refine Keeps.optional (keeps_onWorld frame _) ?_
  exact Keeps.optional (keeps_onWorld frame _) (keeps_pure trivial)

variable {config : Config} (hostUptime : StateM σ UInt64) (reports : Nat)

/-- Every message of a command that asks once is `Asked` about its objects. -/
theorem runSession_asking_keeps {oids : List Oid} (asks : config.command ∈ asking)
    (target : config.target = .objects oids) :
    Keeps (Ledger.Holds (Asked settings (· = oids)))
      (config.runSession (Session.ledgered inner settings) (terminal.lift Ledger.onWorld)
        (Ledger.onWorld hostUptime) reports) fun _ => True := by
  obtain ⟨request, requests, answered, about⟩ := exists_request_of_asking asks target
  rw [runSession, requests]
  refine (ask_keeps inner settings fun requestId => ?_).bind fun bindings _ => ?_
  · exact ⟨request, requestId, rfl, answered, about⟩
  refine (printLines_keeps terminal config.output bindings).bind fun _ _ => ?_
  exact keeps_pure trivial

/-- A walk is `Asking` about one object in reach at a time. -/
theorem runSession_walking_keeps {root : Oid} (walks : config.command ∈ walking)
    (target : config.target = .subtree root) :
    Keeps (Walk.Grounded settings root)
      (config.runSession (Session.ledgered inner settings) (terminal.lift Ledger.onWorld)
        (Ledger.onWorld hostUptime) reports) fun _ => True := by
  rw [runSession_of_walking walks target]
  exact runWalk_keeps inner settings terminal config root reports

end

variable {command : Command} {session : SessionSettings} {settings : Settings}
  {args : List String} {config : Config}

/-- A question about some objects, with all else as it is by default. -/
def plain (oids : List Oid) : Config where
  command := .get
  agent := some "gw"
  target := .objects oids
  session := {}
  walk := {}
  bulk := {}
  output := {}

/-- Every message of a run, as it is read, is about the objects that the user named; a walk's may
also be about one object, under the root, that was `Heard` in the run. What is read for each object
is what `Oid.ArrivesAs` says: the object itself exactly if it is encodable. -/
theorem runSession_asks_named (made : make command session settings args = .ok config)
    (asks : command ∈ asking ∨ command ∈ walking) (inner : Channel (StateM σ))
    (terminal : Terminal (StateM σ)) (hostUptime : StateM σ UInt64) (reports : Nat) (world : σ)
    (nextId : Int32) :
    let after := ((config.runSession (Session.ledgered inner session)
      (terminal.lift Ledger.onWorld) (Ledger.onWorld hostUptime) reports).run.run
      { world, nextId }).2
    ∃ oids, Denote (namedTexts command settings.request.endOid args) oids ∧
      ∀ data ∈ after.sent, ∃ message asked, message.encode = data ∧
        (message.content.length ≤ Length.max → Message.decode data = .ok message) ∧
        List.Forall₂ Oid.ArrivesAs asked (message.pdu.bindings.map VarBind.oid) ∧
        (asked = oids ∨ command ∈ walking ∧ ∃ oid, asked = [oid] ∧
          Heard after.received oid ∧ ∃ root ∈ oids, root.isBelow oid = true) := by
  intro after
  obtain ⟨rfl, -, once, walk⟩ := make_target made
  obtain asks | walks := asks
  · obtain ⟨oids, target, denote⟩ := once asks
    refine ⟨oids, denote, fun data mem => ?_⟩
    have asked := (runSession_asking_keeps inner session terminal hostUptime reports asks
      target).of_empty (Ledger.holds_empty _ world nextId) data mem
    obtain ⟨message, _, encoded, rfl, decoded, arrives⟩ :=
      asked.read fun _ same => same ▸ denote.writable
    exact ⟨message, _, encoded, decoded, arrives, .inl rfl⟩
  · obtain ⟨root, target, denote⟩ := walk walks
    refine ⟨[root], denote, fun data mem => ?_⟩
    have asked := (runSession_walking_keeps inner session terminal hostUptime reports walks
      target).of_empty (Ledger.holds_empty _ world nextId) data mem
    have writable : ∀ oids, (∃ oid, oids = [oid] ∧ Walk.InReach root after.received oid) →
        ∀ oid ∈ oids, oid.Writable := by
      rintro _ ⟨oid, rfl, reach⟩
      rw [List.forall_mem_singleton]
      -- the root was named by the user; anything else was decoded
      obtain rfl | ⟨-, heard⟩ := reach
      · exact List.forall_mem_singleton.mp denote.writable
      · exact Oid.writable_of_encodable heard.encodable
    obtain ⟨message, _, encoded, ⟨oid, rfl, reach⟩, decoded, arrives⟩ := asked.read writable
    refine ⟨message, [oid], encoded, decoded, arrives, ?_⟩
    obtain rfl | ⟨below, heard⟩ := reach
    · exact .inl rfl
    · exact .inr ⟨walks, oid, rfl, heard, root, List.mem_singleton_self root, below⟩

/-- The name of a system arrives as it was asked for, and the first arc of all gets a zero. -/
theorem runSession_asks_named_iso :
    let name : Oid := ⟨[1, 3, 6, 1, 2, 1, 1, 5, 0]⟩
    let args := ["gw", "sysName.0", "iso"]
    let channel :=
      (ScriptedAgent.channel ScriptedAgent.mute.peer ScriptedAgent.mute.isStream).lift
        Rehearsal.onAgent
    let sent := (((plain [name, ⟨[1]⟩]).runSession (Session.ledgered channel {})
      (Rehearsal.terminal.lift Ledger.onWorld) (Ledger.onWorld (pure 0)) 1).run.run
      { world := { agent := .mute }, nextId := 1 }).2.sent
    make .get {} {} args = .ok (plain [name, ⟨[1]⟩]) ∧ .get ∈ asking ∧ sent.length = 1 ∧
      ∀ data ∈ sent, ∃ message, Message.decode data = .ok message ∧
        message.pdu.bindings.map VarBind.oid = [name, ⟨[1, 0]⟩] := by
  intro name args channel sent
  have made : make .get {} {} args = .ok (plain [name, ⟨[1]⟩]) := by decide +kernel
  have asks : Command.get ∈ asking := by decide
  refine ⟨made, asks, by decide +kernel, fun data mem => ?_⟩
  obtain ⟨oids, denote, asked⟩ := runSession_asks_named made (.inl asks) channel
    Rehearsal.terminal (pure 0) 1 { agent := .mute } 1
  obtain ⟨message, objects, encoded, decoded, arrives, rfl | ⟨walks, -⟩⟩ := asked data mem
  -- the command does not walk, so it is about what the texts denote
  swap
  · exact absurd walks (by decide)
  have short : message.content.length ≤ Length.max := by
    have whole : ∀ data ∈ sent, data.length ≤ Length.max := by decide +kernel
    have within := Octets.length_lt_element Tag.sequence message.content
    rw [← Message.encode_eq, encoded] at within
    exact Nat.le_of_lt (Nat.lt_of_lt_of_le within (whole data mem))
  refine ⟨message, decoded short, ?_⟩
  have denoted : objects = [name, ⟨[1]⟩] := by
    have texts : Denote ["sysName.0", "iso"] [name, ⟨[1]⟩] :=
      denote_of_mapM (by decide +kernel)
    exact denote.unique texts
  subst denoted
  obtain ⟨first, _, arrivesName, others, received⟩ := List.forall₂_cons_left_iff.mp arrives
  obtain ⟨second, _, arrivesIso, none, rfl⟩ := List.forall₂_cons_left_iff.mp others
  rw [List.forall₂_nil_left_iff.mp none] at received
  rw [received, arrivesName.same.mpr (by decide), arrivesIso.child 1 (by decide) rfl]

/-! ## Objects that do not arrive -/

theorem make_plain {texts : List String} {oids : List Oid} (named : texts ≠ [])
    (h : texts.mapM Mib.resolve = .ok oids) :
    make .get {} {} ("gw" :: texts) = .ok (plain oids) := by
  obtain ⟨first, more, rfl⟩ := List.exists_cons_of_ne_nil named
  have target : readTarget .get ("gw" :: first :: more) = .ok (some "gw", .objects oids) := by
    show ((first :: more).mapM Mib.resolve >>= _) = _
    rw [h]
    rfl
  show (readTarget .get ("gw" :: first :: more) >>= _) = _
  rw [target]
  rfl

theorem mapM_resolve_replicate {text : String} {oid : Oid} (h : Mib.resolve text = .ok oid)
    (n : Nat) : (List.replicate n text).mapM Mib.resolve = .ok (List.replicate n oid) := by
  induction n with
  | zero => rfl
  | succ n ih =>
    rw [List.replicate_succ, List.mapM_cons, h, ih]
    rfl

theorem lifts_onAgent : @Lifts (StateM ScriptedAgent) (StateM Rehearsal) _ _
    fun _ => Rehearsal.onAgent where
  pure _ := rfl
  bind _ _ := rfl

/-- A command that asks once ends with its exchange, if that fails. -/
theorem rehearsal_of_failed {config : Config} {agent after : ScriptedAgent} {request : Request}
    {error : Error} (requests : config.request? = some request)
    (failed : ((ScriptedAgent.session agent.peer agent.isStream config.session).execute request).run
      agent = (.error error, after)) :
    (Rehearsal.runSession config { agent }).2.agent = after := by
  have exchange : Ensures ((Rehearsal.session agent.peer agent.isStream config.session).execute
      request) { agent } fun outcome state => outcome = .error error ∧ state.agent = after := by
    rw [Rehearsal.session, lifts_onAgent.execute]
    exact ⟨congrArg Prod.fst failed, congrArg Prod.snd failed⟩
  show Ensures (config.runSession (Rehearsal.session agent.peer agent.isStream config.session)
    Rehearsal.terminal (pure 0) agent.reportBound).run { agent } fun _ state => state.agent = after
  rw [runSession, requests]
  refine ensures_run_bind (ensures_run_bind (ensures_mono exchange ?_))
  rintro _ state ⟨rfl, same⟩
  exact same

/-- The question goes out once, since attempts are not repeated over a stream. -/
theorem execute_mute (oids : List Oid) :
    ((ScriptedAgent.session ScriptedAgent.mute.peer true {}).execute (.get oids)).run .mute
      = (.error (.timeout (some ScriptedAgent.mute.peer) .zero 1 0),
        ScriptedAgent.asked {} (.get oids) .mute) := by
  have begun : ((ScriptedAgent.session ScriptedAgent.mute.peer true {}).execute (.get oids)).run
        .mute
      = ((ScriptedAgent.session ScriptedAgent.mute.peer true {}).attempts (.get oids) .zero 0 0).run
        .mute := ScriptedAgent.run_execute rfl rfl
  have reach : ScriptedAgent.mute.clock.after? ({} : SessionSettings).timeout
      = some (.ofSeconds 1) := by decide
  have waiting := ScriptedAgent.waiting_asked ScriptedAgent.mute.peer {} (.get oids) .zero .mute
    rfl rfl
  have silent := ScriptedAgent.run_exchange_zero_of_silence true (by decide) reach waiting 0
    (.inr ⟨rfl, rfl⟩) 0
  have still (agent : ScriptedAgent) (exhausted : agent.replies = []) :
      { agent with replies := [] } = agent := by rw [← exhausted]
  rw [still _ rfl] at silent
  exact begun.trans ((ScriptedAgent.run_attempts reach 0 0).trans silent)

theorem sent_plain (oids : List Oid) :
    (Rehearsal.runSession (plain oids) { agent := .mute }).2.agent.sent
      = [(Session.message {} (.get oids) 1).encode] := by
  rw [rehearsal_of_failed (show (plain oids).request? = some (.get oids) from rfl)
    (execute_mute oids)]
  rfl

/-- A question about one object too many times is not read; each time takes seven octets, and
`Length.max` is reached. -/
theorem decode_message_replicate {n : Nat} (many : Length.max < 7 * n) (few : n < 2 ^ 28) :
    ∃ error, Message.decode
      (Session.message {} (.get (List.replicate n ⟨[1, 3]⟩)) 1).encode = .error error := by
  let message := Session.message {} (.get (List.replicate n ⟨[1, 3]⟩)) 1
  have each : (VarBind.ofOid ⟨[1, 3]⟩).octets.length = 7 := by decide +kernel
  have bindings : message.pdu.bindings = List.replicate n (VarBind.ofOid ⟨[1, 3]⟩) :=
    List.map_replicate
  have content : (VarBindList.content message.pdu.bindings).length = n * 7 := by
    rw [bindings, VarBindList.content, List.length_flatMap, List.map_replicate, each,
      List.sum_replicate_nat]
  have longer := Octets.length_lt_element Tag.sequence (VarBindList.content message.pdu.bindings)
  have shorter := Octets.length_element_le Tag.sequence (VarBindList.content message.pdu.bindings)
  have lower := message.length_content_ge
  have upper := message.length_content_le
  have community : message.community.length = 6 := rfl
  rw [VarBindList.octets] at lower upper
  rw [Message.overhead] at upper
  rw [Message.encode_eq]
  refine ⟨_, Message.decode_long (show Length.max < message.content.length from ?_) ?_⟩
  · omega
  · show message.content.length < 2 ^ 32
    omega

/-- Objects outside the domain of the codec are accepted and arrive as other objects, which their
texts do not denote; and a message that is too long does not arrive as any. -/
theorem runSession_asks_otherwise :
    let sent (config : Config) := (Rehearsal.runSession config { agent := .mute }).2.agent.sent
    (∀ text object, (text, object) ∈ [("3.1", Oid.mk [2, 41]), ("1.40", ⟨[2, 0]⟩),
        ("2.4294967295", ⟨[2, 4294967215]⟩), ("iso", ⟨[1, 0]⟩)] →
      ∃ config data message, make .get {} {} ["gw", text] = .ok config ∧ data ∈ sent config ∧
        Message.decode data = .ok message ∧ message.pdu.bindings.map VarBind.oid = [object] ∧
        ¬ Denote [text] [object]) ∧
    ∃ config data error,
      make .get {} {} ("gw" :: List.replicate 0x80000 "1.3") = .ok config ∧
      data ∈ sent config ∧ Message.decode data = .error error := by
  intro sent
  -- one text that denotes an object and arrives as another one
  have otherwise (text : String) (named object : Oid) (resolved : Mib.resolve text = .ok named)
      (arrives : Message.decode (Session.message {} (.get [named]) 1).encode
        = .ok (Session.message {} (.get [object]) 1)) (differs : object ≠ named) :
      ∃ config data message, make .get {} {} ["gw", text] = .ok config ∧ data ∈ sent config ∧
        Message.decode data = .ok message ∧ message.pdu.bindings.map VarBind.oid = [object] ∧
        ¬ Denote [text] [object] := by
    have denotes : Denote [text] [named] := .cons resolved .nil
    refine ⟨plain [named], (Session.message {} (.get [named]) 1).encode, _,
      make_plain (List.cons_ne_nil _ _) ?_, ?_, arrives, rfl,
      fun other => differs (List.singleton_inj.mp (other.unique denotes))⟩
    · rw [List.mapM_cons, resolved]
      rfl
    · dsimp only [sent]
      rw [sent_plain]
      exact List.mem_singleton_self _
  refine ⟨?_, ?_⟩
  · simp only [List.mem_cons, Prod.mk.injEq, List.not_mem_nil, or_false]
    rintro text object (⟨rfl, rfl⟩ | ⟨rfl, rfl⟩ | ⟨rfl, rfl⟩ | ⟨rfl, rfl⟩)
    · exact otherwise _ ⟨[3, 1]⟩ _ (by decide +kernel) (by decide +kernel) (by decide)
    · exact otherwise _ ⟨[1, 40]⟩ _ (by decide +kernel) (by decide +kernel) (by decide)
    · exact otherwise _ ⟨[2, 4294967295]⟩ _ (by decide +kernel) (by decide +kernel) (by decide)
    · exact otherwise _ ⟨[1]⟩ _ (by decide +kernel) (by decide +kernel) (by decide)
  · have numeric : Mib.resolve "1.3" = .ok ⟨[1, 3]⟩ := by decide +kernel
    have named : List.replicate 0x80000 "1.3" ≠ [] := by
      rw [Ne, List.replicate_eq_nil_iff]
      decide
    have accepted := make_plain named (mapM_resolve_replicate numeric 0x80000)
    obtain ⟨error, refused⟩ :=
      decode_message_replicate (show Length.max < 7 * 0x80000 by decide) (by decide)
    refine ⟨_, _, error, accepted, ?_, refused⟩
    dsimp only [sent]
    rw [sent_plain]
    exact List.mem_singleton_self _

end Config

end SnmpManager
