import SnmpManager.Proofs.Message.Size
import SnmpManager.Proofs.Walk.Honest

/-!
# An agent over a table

The plainest honest agent: it reads a request, looks into its table, and has the
reply ready at once. In bulk it says as much as it is asked for, up to a size of
its own.

- `TableAgent.session`: a session with such an agent.
- `TableAgent.Fits`: the messages of a walk are not too long to read.
- `TableAgent.honest`: for every table whose messages fit, it is honest.
-/

namespace SnmpManager

/-! ## The agent -/

/-- An agent with replies to deliver. -/
structure TableAgent where
  pending : List Octets := []
  /-- The id for the session's next attempt. -/
  nextId : Int32 := 1

namespace TableAgent

variable (table : Table) (size : Nat)

/-- What the agent says in answer to a unit. -/
def answer (pdu : Pdu) : List VarBind :=
  match pdu.kind, pdu.bindings with
  | .getRequest, [binding] => [table.get binding.oid]
  | .getNextRequest, [binding] => [table.next binding.oid]
  | .getBulkRequest, [binding] =>
    if pdu.errorStatus = 0 then
      table.row binding.oid (max 1 (min size pdu.errorIndex.toInt.toNat))
    else [table.next binding.oid]
  | _, _ => []

/-- The message in answer to another. -/
def reply (request : Message) : Message :=
  { request with pdu := ⟨.response, request.pdu.requestId, 0, 0, answer table size request.pdu⟩ }

/-- Take in a message. -/
def accept (agent : TableAgent) (data : Octets) : TableAgent :=
  match Message.decode data with
  | .ok request => { agent with pending := agent.pending ++ [(reply table size request).encode] }
  | .error _ => agent

/-- Deliver a reply, if there is one. -/
def deliver (agent : TableAgent) (requestId : Int32) (limit : Duration) :
    Except Error Octets × TableAgent :=
  match agent.pending with
  | [] => (.error (.timeout none limit requestId 0), agent)
  | data :: rest => (.ok data, { agent with pending := rest })

/-- A session with the agent. Its clock stands still. -/
def session (settings : SessionSettings) : Session (StateM TableAgent) where
  channel :=
    { peer := ⟨.v4 ⟨127, 0, 0, 1⟩, 161⟩
      isStream := false
      send := fun data => modifyGet fun agent => (.ok (), agent.accept table size data)
      receive := fun requestId limit => modifyGet fun agent => agent.deliver requestId limit
      now := return .zero
      backlog := return (← get).pending.length }
  settings := settings
  freshId := modifyGet fun agent => (agent.nextId,
    { agent with nextId := nextRequestId agent.nextId })

theorem run_send (settings : SessionSettings) (agent : TableAgent) (data : Octets) :
    ((session table size settings).channel.send data).run agent
      = (.ok (), agent.accept table size data) :=
  rfl

/-- No message of a walk over the table is too long to read. -/
def Fits (root : Oid) (community : Octets) : Prop :=
  ∀ oid ∈ root :: table.entries.map VarBind.oid, ∀ count < size + 2,
    ∀ bindings ∈ [[VarBind.ofOid oid], [table.get oid], table.row oid count],
      community.length + (VarBindList.octets bindings).length + Message.overhead ≤ Length.max

instance (root : Oid) (community : Octets) : Decidable (Fits table size root community) :=
  inferInstanceAs (Decidable (∀ oid ∈ root :: table.entries.map VarBind.oid, ∀ count < size + 2,
    ∀ bindings ∈ [[VarBind.ofOid oid], [table.get oid], table.row oid count],
      community.length + (VarBindList.octets bindings).length + Message.overhead ≤ Length.max))

variable {table size} {root : Oid} {options : WalkOptions} {settings : SessionSettings}

/-! ## It is honest -/

/-- What the agent says in answer to a request, and about which object. -/
structure Serves (table : Table) (size : Nat) (request : Request) (requestId : Int32) (oid : Oid) :
    Prop where
  bindings : (request.pdu requestId).bindings = [VarBind.ofOid oid]
  ownId : (request.pdu requestId).requestId = requestId
  answers : table.Answers request (answer table size (request.pdu requestId))
  /-- It is one of the answers that fit. -/
  shape : answer table size (request.pdu requestId) = [table.get oid] ∨
    ∃ count < size + 2, answer table size (request.pdu requestId) = table.row oid count

/-- A count goes out in its `countField` as it is, or as the largest number there is room for. -/
theorem toNat_countField (n : UInt32) :
    (Request.countField n).toInt.toNat = min n.toNat 0x7FFFFFFF := by
  rw [Request.toInt_countField]
  exact Int.toNat_natCast _

theorem serves_get (requestId : Int32) (oid : Oid) :
    Serves table size (.get [oid]) requestId oid :=
  ⟨rfl, rfl, .get oid, .inl rfl⟩

/-- An `iterationRequest` is about one object, and the agent `Serves` it from its table: in bulk
with a `row`, which is one binding if the object is not to be repeated, and otherwise with what
comes next. -/
theorem serves_iteration
    (counts : ∀ counts ∈ options.bulk, 1 ≤ counts.maxRepetitions ∧ counts.nonRepeaters ≤ 1)
    (requestId : Int32) (oid : Oid) :
    Serves table size (Walk.iterationRequest options oid) requestId oid := by
  rw [Walk.iterationRequest]
  split
  case h_1 bulk isBulk =>
    obtain ⟨nonRepeaters, maxRepetitions⟩ := bulk
    obtain ⟨some, atMost⟩ := counts _ isBulk
    rw [UInt32.le_iff_toNat_le] at some atMost
    change 1 ≤ maxRepetitions.toNat at some
    change nonRepeaters.toNat ≤ 1 at atMost
    -- the one OID asked about is a non-repeater or is to be repeated
    have either : nonRepeaters = 0 ∨ nonRepeaters = 1 := by
      rw [← UInt32.toNat_inj, ← UInt32.toNat_inj]
      show nonRepeaters.toNat = 0 ∨ nonRepeaters.toNat = 1
      omega
    rcases either with rfl | rfl
    · have said : answer table size ((Request.getBulk [oid] 0 maxRepetitions).pdu requestId)
          = table.row oid (max 1 (min size (min maxRepetitions.toNat 0x7FFFFFFF))) := by
        rw [← toNat_countField]
        rfl
      refine ⟨rfl, rfl, ?_, .inr ⟨_, by omega, said⟩⟩
      rw [said]
      exact .repeated oid maxRepetitions _ (by omega) (by omega)
    -- a GETBULK with its one OID as a non-repeater is a GETNEXT
    · exact ⟨rfl, rfl, .single oid maxRepetitions, .inr ⟨1, by omega, rfl⟩⟩
  case h_2 => exact ⟨rfl, rfl, .getNext oid, .inr ⟨1, by omega, rfl⟩⟩

/-- Every request that `Walk.Asks` allows is about one object of the walk, and the agent `Serves`
it. -/
theorem serves_walk (size : Nat)
    (counts : ∀ counts ∈ options.bulk, 1 ≤ counts.maxRepetitions ∧ counts.nonRepeaters ≤ 1)
    {request : Request} (asks : Walk.Asks table root options request) (requestId : Int32) :
    ∃ oid ∈ root :: table.entries.map VarBind.oid, Serves table size request requestId oid := by
  cases asks with
  | root => exact ⟨root, List.mem_cons_self, serves_get requestId root⟩
  | first => exact ⟨root, List.mem_cons_self, serves_iteration counts requestId root⟩
  | after entry mem =>
    exact ⟨entry.oid, List.mem_cons_of_mem _ (List.mem_map_of_mem mem),
      serves_iteration counts requestId entry.oid⟩

/-- A request arrives as it was sent, and the `reply` is ready. -/
theorem send_ensures (agent : TableAgent) {request : Request} {requestId : Int32} {oid : Oid}
    (serves : Serves table size request requestId oid) (ok : oid.Encodable)
    (short : (Session.message settings request requestId).content.length ≤ Length.max) :
    Ensures ((session table size settings).channel.send
        (Session.message settings request requestId).encode) agent
      fun outcome sent => outcome = .ok () ∧ sent = { agent with
        pending := agent.pending ++
          [(reply table size (Session.message settings request requestId)).encode] } := by
  have encodable : ∀ binding ∈ (Session.message settings request requestId).pdu.bindings,
      binding.Encodable := by
    intro binding mem
    change binding ∈ (request.pdu requestId).bindings at mem
    rw [serves.bindings, List.mem_singleton] at mem
    rw [mem]
    exact ⟨ok, trivial⟩
  have decoded := Message.decode_content encodable short
  rw [Ensures, run_send, accept, Message.encode_eq, decoded]
  exact ⟨rfl, rfl⟩

/-- If the messages of a walk fit, the one that asks about an object can be read. -/
theorem length_request_le (fits : Fits table size root settings.community) {request : Request}
    {requestId : Int32} {oid : Oid} (known : oid ∈ root :: table.entries.map VarBind.oid)
    (serves : Serves table size request requestId oid) :
    (Session.message settings request requestId).content.length ≤ Length.max := by
  refine (Message.length_content_le (Session.message settings request requestId)).trans ?_
  show settings.community.length
    + (VarBindList.octets (request.pdu requestId).bindings).length + _ ≤ _
  rw [serves.bindings]
  exact fits oid known 0 (by omega) _ List.mem_cons_self

/-- If the messages of a walk fit, the `reply` can be read as well. -/
theorem length_reply_le (fits : Fits table size root settings.community) {request : Request}
    {requestId : Int32} {oid : Oid} (known : oid ∈ root :: table.entries.map VarBind.oid)
    (serves : Serves table size request requestId oid) :
    (reply table size (Session.message settings request requestId)).content.length
      ≤ Length.max := by
  refine (Message.length_content_le _).trans ?_
  show settings.community.length
    + (VarBindList.octets (answer table size (request.pdu requestId))).length + _ ≤ _
  rcases serves.shape with isGet | ⟨count, few, isRow⟩
  · rw [isGet]
    exact fits oid known 0 (by omega) _ (List.mem_cons_of_mem _ List.mem_cons_self)
  · rw [isRow]
    exact fits oid known count few _
      (List.mem_cons_of_mem _ (List.mem_cons_of_mem _ List.mem_cons_self))

/-- Over a table whose messages fit, the agent is `Honest`. -/
theorem honest (version : settings.version = .v2c) (timeout : settings.timeout ≠ .zero)
    (encodable : table.Encodable root) (fits : Fits table size root settings.community)
    (counts : ∀ counts ∈ options.bulk, 1 ≤ counts.maxRepetitions ∧ counts.nonRepeaters ≤ 1) :
    Honest table root options (session table size settings) fun agent => agent.pending = [] where
  version := version
  now := fun _ isReady => isReady
  freshId := fun _ isReady => isReady
  exchange := by
    intro request asks requestId agent isReady
    obtain ⟨oid, known, serves⟩ := serves_walk size counts asks requestId
    have ok : oid.Encodable := by
      rcases List.mem_cons.mp known with rfl | known
      · exact encodable.root
      · obtain ⟨entry, mem, rfl⟩ := List.mem_map.mp known
        exact (encodable.entries entry mem).oid
    have short := length_reply_le fits known serves
    refine ensures_mono (send_ensures agent serves ok (length_request_le fits known serves)) ?_
    rintro _ _ ⟨rfl, rfl⟩
    rw [isReady]
    refine ⟨rfl, fun deadline reach => ?_⟩
    have remaining : deadline.since .zero = settings.timeout := Duration.since_of_after? reach
    -- the reply is the only one pending, so it is what is delivered
    exact ⟨remaining ▸ timeout, rfl, _, rfl, rfl, rfl, serves.ownId, rfl, serves.answers, short⟩

/-- The agent's clock stands at zero, so the `Deadlines` are the whole timeout. -/
theorem deadlines {are : Option Duration → Prop}
    (h : are (Duration.zero.after? settings.timeout)) :
    Deadlines table root options (session table size settings) (fun agent => agent.pending = [])
      are :=
  fun _ _ _ _ _ => h

end TableAgent

end SnmpManager
