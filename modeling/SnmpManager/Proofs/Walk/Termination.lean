import Mathlib.Data.List.ReduceOption
import Mathlib.Data.Set.Finite.List
import SnmpManager.Proofs.Session.Answers
import SnmpManager.Proofs.Walk.Discipline

/-!
# Walks end

Objects have infinitely long increasing chains, `1.3 < 1.3.0 < 1.3.0.0 < …`, but
not among those that can be decoded, which have 128 arcs of 32 bits at most. So a
walk that insists on increasing objects ends against every agent, after a number
of polls that no agent has any part in (`Walk.polls_terminate`).

- `Oid.decodable`: the objects that can be decoded, of which there are finitely many.
- `Walk.Received`: what a walk has to judge, and has reported, was decoded.
- `Walk.Iterated.increasing`: an iteration that checks the order goes upwards.
-/

namespace SnmpManager

/-! ## Decodable objects -/

namespace Oid

/-- The objects short enough to be decoded. -/
def decodable : Set Oid :=
  {oid | oid.length ≤ maxArcs}

theorem mem_decodable_of_encodable {oid : Oid} (h : oid.Encodable) : oid ∈ decodable := by
  obtain ⟨arcs⟩ := oid
  match arcs, h with
  | _ :: _ :: _, ⟨_, _, _, short⟩ => exact short

/-- There are finitely many lists of at most `maxArcs` arcs of 32 bits. -/
theorem finite_decodable : decodable.Finite := by
  have arcs : Finite UInt32 :=
    Finite.of_injective UInt32.toFin fun _ _ => UInt32.toFin_inj.mp
  have injective : Function.Injective Oid.arcs := fun a b same => by
    cases a
    cases b
    exact congrArg Oid.mk same
  exact (List.finite_length_le UInt32 maxArcs).preimage injective.injOn

/-- How many objects can be decoded. -/
noncomputable def decodableCount : Nat :=
  finite_decodable.toFinset.card

/-- An increasing chain of `decodable` objects is not longer than there are any. -/
theorem length_le_of_increasing {oids : List Oid} (increasing : oids.Pairwise (· < ·))
    (decoded : ∀ oid ∈ oids, oid ∈ decodable) : oids.length ≤ decodableCount := by
  have distinct : oids.Nodup := increasing.imp ne_of_lt
  rw [decodableCount, ← List.toFinset_card_of_nodup distinct]
  refine Finset.card_le_card fun oid mem => ?_
  rw [Set.Finite.mem_toFinset]
  exact decoded oid (List.mem_toFinset.mp mem)

end Oid

namespace Walk

/-! ## What a walk receives -/

/-- The bindings a walk has to judge and those it has reported were decoded. -/
def Received (walk : Walk) (events : List Event) : Prop :=
  VarBindList.OidsEncodable walk.buffer ∧ VarBindList.OidsEncodable (foundIn events)

variable {σ : Type} (session : Session (StateM σ))

theorem received_nil (root : Oid) (options : WalkOptions) : Received (start root options) [] :=
  ⟨VarBindList.oidsEncodable_nil, VarBindList.oidsEncodable_nil⟩

/-- Errors and the end of the iteration leave nothing to judge. -/
theorem Received.of_empty {walk after : Walk} {events more : List Event}
    (h : Received walk events) (empty : after.buffer = []) (none : foundIn more = []) :
    Received after (events ++ more) := by
  rw [Received, empty, foundIn_append, none, List.append_nil]
  exact ⟨VarBindList.oidsEncodable_nil, h.2⟩

/-- What is judged was in the buffer, so what `drain` reports and what it leaves was decoded. -/
theorem Received.drain {walk : Walk} {events : List Event} (h : Received walk events) :
    Received walk.drain.2 (events ++ told walk.drain.1) := by
  rw [Walk.drain]
  split
  case h_1 empty => exact h.of_empty empty rfl
  case h_2 binding rest filled =>
    have decoded := h.1
    rw [filled] at decoded
    obtain ⟨first, others⟩ := List.forall_mem_cons.mp decoded
    dsimp only
    split
    case h_1 =>
      refine ⟨others, ?_⟩
      show VarBindList.OidsEncodable (foundIn (events ++ [.reported (.ok binding)]))
      rw [foundIn_append]
      exact List.forall_mem_append.mpr ⟨h.2, List.forall_mem_singleton.mpr first⟩
    case h_2 => exact h.of_empty rfl rfl
    case h_3 => exact h.of_empty rfl rfl

/-- The bindings of an answer were decoded, whatever phase `absorb` takes them in for. -/
theorem Received.absorb {walk : Walk} {events : List Event} {request : Request}
    {outcome : Except Error Response} (h : Received walk events)
    (empty : walk.buffer = []) (asks : walk.request? = some request)
    (decoded : ∀ response, outcome = .ok response →
      VarBindList.OidsEncodable response.bindings) :
    Received (walk.absorb outcome).2
      (events ++ .asked request outcome :: told (walk.absorb outcome).1) := by
  -- at most one binding is taken from the reply, and nothing is kept in the buffer
  have about_root (phase : walk.phase = .seed ∨ walk.phase = .fallback) :
      Received (walk.absorb outcome).2
        (events ++ .asked request outcome :: told (walk.absorb outcome).1) := by
    obtain ⟨error, absorbed⟩ | ⟨binding?, absorbed, answered⟩ := absorb_root_cases phase outcome
    · rw [absorbed]
      exact h.of_empty rfl rfl
    · rw [absorbed]
      cases binding? with
      | none => exact h.of_empty empty rfl
      | some binding =>
        obtain ⟨response, rfl, mem⟩ := answered binding rfl
        refine ⟨h.1, ?_⟩
        show VarBindList.OidsEncodable (foundIn (events ++ [_, .reported (.ok binding)]))
        rw [foundIn_append]
        exact List.forall_mem_append.mpr
          ⟨h.2, List.forall_mem_singleton.mpr (decoded response rfl binding mem)⟩
  cases phase : walk.phase with
  | done =>
    rw [request?, phase] at asks
    cases asks
  | seed => exact about_root (.inl phase)
  | fallback => exact about_root (.inr phase)
  | iterate =>
    obtain ⟨error, absorbed⟩ | absorbed | ⟨response, rfl, filled, absorbed⟩ :=
      absorb_batch_cases phase outcome
    · rw [absorbed]
      exact h.of_empty rfl rfl
    · rw [absorbed]
      exact h.of_empty rfl rfl
    · rw [absorbed]
      -- the whole reply goes to the buffer, and it was decoded as a whole
      refine ⟨decoded response rfl, ?_⟩
      show VarBindList.OidsEncodable (foundIn (events ++ [_]))
      rw [foundIn_append]
      exact List.forall_mem_append.mpr ⟨h.2, VarBindList.oidsEncodable_nil⟩

/-- The step lemma: what a walk has to judge and has reported is `Received` all along. -/
theorem kept_received : Kept session Received where
  drain := Received.drain
  absorb h empty asks answered := by
    obtain ⟨world, rfl⟩ := answered
    exact h.absorb empty asks (Session.execute_encodable session _ world)

/-! ## Upwards -/

theorem getLast?_lastOid (previous : Oid) (bindings : List VarBind) :
    (previous :: bindings.map VarBind.oid).getLast? = some (lastOid previous bindings) := by
  rw [List.getLast?_cons, lastOid, List.getLastD_eq_getLast?]

/-- Each object an iteration finds comes after the one before it, as `Acceptable` asks where the
order is checked. -/
theorem Iterated.increasing {root : Oid} {options : WalkOptions} {iteration : List Event}
    (h : Iterated root options iteration) (checks : options.checkIncrease = true) :
    (root :: (foundIn iteration).map VarBind.oid).Pairwise (· < ·) := by
  rw [← List.isChain_iff_pairwise]
  -- only the rules for what is found are needed, and they hold of any front of the events
  have finds := h.finds
  clear h
  induction iteration using List.reverseRecOn with
  | nil => exact List.isChain_singleton _
  | append_singleton iteration event ih =>
    have front := ih fun earlier binding later split =>
      finds earlier binding (later ++ [event]) (by rw [split]; simp)
    match event with
    | .asked request outcome => simpa using front
    | .reported (.error error) => simpa using front
    | .reported (.ok binding) =>
      have ok := finds iteration binding [] rfl
      have above : lastOid root (foundIn iteration) < binding.oid :=
        lt_of_le_of_ne (not_lt.mp (ok.inOrder checks)) ok.differs.symm
      rw [foundIn_append, List.map_append, ← List.cons_append, List.isChain_append]
      refine ⟨front, List.isChain_singleton _, ?_⟩
      rw [getLast?_lastOid]
      rintro _ ⟨⟩ _ ⟨⟩
      exact above

/-! ## The end -/

/-- There is one report at most of what is `AboutRoot`, and one round trip. -/
theorem AboutRoot.few {root : Oid} {events : List Event} (h : AboutRoot root events) :
    (askedIn events).length ≤ 1 ∧ (foundIn events).length ≤ 1 := by
  obtain ⟨outcome, report, rfl⟩ := h
  match report with
  | none | some (.ok _) | some (.error _) => simp [told]

theorem few_of_nil : (askedIn []).length ≤ 1 ∧ (foundIn []).length ≤ 1 := by
  simp

/-- A walk reports few bindings beside those of its iteration, and makes few round trips beside
those: its `Stages` are an opening, an iteration and a closing. -/
theorem Stages.few {root : Oid} {options : WalkOptions} {count : Nat}
    {opening iteration closing : List Event}
    (h : Stages root options count opening iteration closing) :
    (askedIn (opening ++ iteration ++ closing)).length ≤ (foundIn iteration).length + 3 ∧
      (foundIn (opening ++ iteration ++ closing)).length ≤ (foundIn iteration).length + 2 := by
  have opens : (askedIn opening).length ≤ 1 ∧ (foundIn opening).length ≤ 1 := by
    have opens := h.opens
    split at opens
    case isTrue => exact opens.few
    case isFalse => exact opens ▸ few_of_nil
  have closes : (askedIn closing).length ≤ 1 ∧ (foundIn closing).length ≤ 1 := by
    by_cases closed : closing = []
    · exact closed ▸ few_of_nil
    · exact (h.closes closed).1.few
  have iterates := h.iterates.few
  simp only [askedIn_append, foundIn_append, List.length_append]
  omega

/-- Over any number of polls a walk that checks the order finds increasing objects that are
`decodable`, and there are at most `decodableCount` of those. -/
theorem polls_bounded (root : Oid) (options : WalkOptions)
    (checks : options.checkIncrease = true) (world : σ) (count : Nat) :
    Ensures (polls (pollNoted session) count (start root options)) { world } fun result later =>
      (∃ opening iteration closing, later.events = opening ++ iteration ++ closing ∧
        Stages root options count opening iteration closing ∧
        (root :: (foundIn iteration).map VarBind.oid).Pairwise (· < ·) ∧
        ∀ binding ∈ foundIn iteration, binding.oid ∈ Oid.decodable) ∧
      result.1.reduceOption.length ≤ Oid.decodableCount + 3 ∧
      (askedIn later.events).length ≤ Oid.decodableCount + 3 := by
  have begun : Received (start root options) ({ world } : Journal σ).events :=
    received_nil root options
  have known := ensures_and (polls_stages session root options world count) <|
    ensures_and ((kept_received session).polls count begun) <|
    ensures_and (polls_course session count { world } (course_start root options))
      (polls_reports session count (start root options) { world })
  refine ensures_mono known fun result later => ?_
  rintro ⟨⟨opening, iteration, closing, split, stages, -⟩, ⟨-, received⟩, ⟨course, -⟩, reported⟩
  have increasing := stages.iterates.increasing checks
  have decoded : ∀ binding ∈ foundIn iteration, binding.oid ∈ Oid.decodable := by
    intro binding mem
    refine Oid.mem_decodable_of_encodable (received binding ?_)
    rw [split, foundIn_append, foundIn_append]
    exact List.mem_append_left _ (List.mem_append_right _ mem)
  -- OIDs that ascend are distinct, and there are only so many that decode
  have few : (foundIn iteration).length ≤ Oid.decodableCount := by
    rw [← List.length_map VarBind.oid]
    exact Oid.length_le_of_increasing (List.pairwise_cons.mp increasing).2
      (List.forall_mem_map.mpr decoded)
  have total := stages.few
  rw [← split] at total
  refine ⟨⟨opening, iteration, closing, split, stages, increasing, decoded⟩, ?_, by omega⟩
  change reportedIn later.events = result.1.reduceOption at reported
  rw [← reported]
  obtain clean | ⟨-, error, failed⟩ := course.reported_eq
  · rw [clean, List.length_map]
    omega
  · rw [failed, List.length_append, List.length_map, List.length_singleton]
    omega

/-- A walk that checks the order finds its objects in increasing order, all of them `decodable`, and
so it ends against every agent, with a bounded number of reports and of round trips. -/
theorem polls_terminate (root : Oid) (options : WalkOptions)
    (checks : options.checkIncrease = true) (world : σ) :
    let run (count : Nat) := (polls (pollNoted session) count (start root options)).run { world }
    let limit := Oid.decodableCount + 3
    (∀ count,
      ((run count).1, (run count).2.world)
        = (polls (next session) count (start root options)).run world ∧
      (∃ opening iteration closing, (run count).2.events = opening ++ iteration ++ closing ∧
        Stages root options count opening iteration closing ∧
        (root :: (foundIn iteration).map VarBind.oid).Pairwise (· < ·) ∧
        ∀ binding ∈ foundIn iteration, binding.oid ∈ Oid.decodable) ∧
      (run count).1.1.reduceOption.length ≤ limit ∧
      (askedIn (run count).2.events).length ≤ limit) ∧
    none ∈ (run (limit + 1)).1.1 ∧ ∀ more, run (limit + 1 + more)
      = (((run (limit + 1)).1.1 ++ List.replicate more none, (run (limit + 1)).1.2),
        (run (limit + 1)).2) := by
  intro run limit
  have bounded (count : Nat) := polls_bounded session root options checks world count
  have ends : none ∈ (run (limit + 1)).1.1 := by
    refine Decidable.byContradiction fun never => ?_
    have all : ∀ report ∈ (run (limit + 1)).1.1, report.isSome := by
      intro report mem
      cases report with
      | none => exact absurd mem never
      | some item => rfl
    -- had every poll reported something, there would be more reports than there can be
    have length : (run (limit + 1)).1.1.length = limit + 1 :=
      polls_length (pollNoted session) (limit + 1) _ _
    have many := List.reduceOption_length_eq_iff.mpr all
    have few : (run (limit + 1)).1.1.reduceOption.length ≤ limit := (bounded (limit + 1)).2.1
    omega
  refine ⟨fun count => ⟨erases_polls session count _ { world }, bounded count⟩, ends, ?_⟩
  exact run_polls_of_final session root options world (limit + 1)
    ⟨none, ends, fun _ same => nomatch same⟩

/-- An agent that always knows an object further down. Its state is the message it has to answer. -/
def deepening : Session (StateM Octets) where
  channel := {
    peer := ⟨.v4 ⟨127, 0, 0, 1⟩, 161⟩
    isStream := false
    send := fun data => do
      set data
      return .ok ()
    receive := fun _ _ => do
      match Message.decode (← get) with
      | .error e => return .error (.decode e)
      | .ok request =>
        let bindings := request.pdu.bindings.map fun binding => ⟨binding.oid.child 0, .null⟩
        return .ok { request with pdu := ⟨.response, request.pdu.requestId, 0, 0, bindings⟩ }.encode
    now := return .zero
    backlog := return 0 }
  settings := {}
  freshId := return 1

/-- A walk follows such an agent down, and not for ever. -/
theorem polls_terminate_deepening :
    let run (count : Nat) :=
      (polls (pollNoted deepening) count (start ⟨[1, 3]⟩ {})).run { world := [] }
    (foundIn (run 3).2.events).map VarBind.oid
      = [⟨[1, 3, 0]⟩, ⟨[1, 3, 0, 0]⟩, ⟨[1, 3, 0, 0, 0]⟩] ∧
    ∃ last, none ∈ (run last).1.1 := by
  intro run
  refine ⟨by decide +kernel, Oid.decodableCount + 3 + 1, ?_⟩
  have ends := polls_terminate deepening ⟨[1, 3]⟩ {} rfl []
  dsimp only [run] at ends ⊢
  exact ends.2.1

end Walk

end SnmpManager
