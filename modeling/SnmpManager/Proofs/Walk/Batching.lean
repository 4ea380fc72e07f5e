import SnmpManager.Proofs.Session.Interpretation
import SnmpManager.Proofs.Walk.Reference
import SnmpManager.Proofs.Walk.Reports
import SnmpManager.Session.Scripted

/-!
# Walks do not depend on batching

Whatever an agent answers, a walk reports what `Walk.reference` says about the
bindings it receives, and how these are cut into replies makes no difference
(`Walk.reports_eq_reference`).

- `Walk.Seeded`: what comes of the request for the root itself, where there is one.
- `Walk.AnsweredBy`: the replies to the requests of an iteration, for as long as
  it makes any.
-/

namespace SnmpManager

namespace Walk

variable {σ : Type} (session : Session (StateM σ)) (root : Oid) (options : WalkOptions)

/-- The request of an iteration that has come to some object. -/
def iterationRequest (cursor : Oid) : Request :=
  match options.bulk with
  | some counts => .getBulk [cursor] counts.nonRepeaters counts.maxRepetitions
  | none => .getNext [cursor]

/-- From some object on, the requests of the iteration are answered without an error by these
bindings, reply by reply. What is asked after the iteration has ended does not matter. -/
def AnsweredBy : (cursor : Oid) → σ → List (List VarBind) → Prop
  | _, _, [] => True
  | cursor, state, batch :: batches =>
    batch ≠ [] ∧ ∃ response after,
      (session.execute (iterationRequest options cursor)).run state = (.ok response, after) ∧
      response.isError = false ∧ response.bindings = batch ∧
      (ending root options cursor batch = .goesOn →
        AnsweredBy (lastOid cursor batch) after batches)

/-- If the root itself is asked for first, that is answered without an error, and `seed` is what the
answer says about it. -/
def Seeded (before : σ) (seed : List VarBind) (after : σ) : Prop :=
  if options.includeStart then
    ∃ response, (session.execute (.get [root])).run before = (.ok response, after) ∧
      response.isError = false ∧ seed = response.bindings.head?.toList
  else seed = [] ∧ after = before

variable {session root options}

/-- One reply in front of those that the walk is `AnsweredBy`, as it was computed. -/
theorem AnsweredBy.cons {cursor : Oid} {state : σ} (response : Response)
    {batches : List (List VarBind)}
    (answered : ((session.execute (iterationRequest options cursor)).run state).1 = .ok response)
    (noError : response.isError = false) (filled : response.bindings ≠ [])
    (others : ending root options cursor response.bindings = .goesOn →
      AnsweredBy session root options (lastOid cursor response.bindings)
        ((session.execute (iterationRequest options cursor)).run state).2 batches) :
    AnsweredBy session root options cursor state (response.bindings :: batches) :=
  ⟨filled, response, _, Prod.ext answered rfl, noError, rfl, others⟩

/-! ## One reply -/

/-- A binding that is not `Acceptable` ends the iteration as `ending` says. -/
theorem judge_eq_ending (walk : Walk) {binding : VarBind}
    (h : ¬ Acceptable walk.root walk.options walk.cursor binding) (rest : List VarBind) :
    (walk.judge binding = .stop ∧
      ending walk.root walk.options walk.cursor (binding :: rest) = .stops) ∨
    ∃ error, walk.judge binding = .fail error ∧
      ending walk.root walk.options walk.cursor (binding :: rest) = .fails error := by
  rw [judge_of_not_acceptable h, ending_cons_of_not h]
  split
  case isTrue => exact .inl ⟨rfl, rfl⟩
  case isFalse =>
    split
    case isTrue => exact .inr ⟨_, rfl, rfl⟩
    case isFalse => exact .inl ⟨rfl, rfl⟩

/-- By induction on the bindings of one reply: they are reported as `reference` says. -/
theorem yields_buffer (previous : Oid) (found : Nat) (bindings : List VarBind) (state : σ) :
    Yields session ({ iterating root options previous found with buffer := bindings }, state)
      (reference root options previous bindings)
      (resume root options previous found bindings, state) := by
  induction bindings generalizing previous found with
  | nil => exact Yields.refl _
  | cons binding rest ih =>
    let walk := { iterating root options previous found with buffer := rest }
    have tidy : { walk with buffer := binding :: rest }.Tidy := fun _ => rfl
    -- a binding that is not acceptable ends the walk, and the rest of its reply is dropped
    by_cases ok : Acceptable root options previous binding
    · have drained : drain { walk with buffer := binding :: rest } = (some (.ok binding),
          { iterating root options binding.oid (found + 1) with buffer := rest }) := by
        have verdict : walk.judge binding = .found := judge_of_acceptable ok
        rw [drain]
        dsimp only
        rw [verdict]
        rfl
      rw [reference_cons ok, resume_cons ok]
      exact (yields_of_drain_some session tidy drained state).trans (ih _ _)
    · rw [reference, resume, accepted_cons_of_not ok]
      obtain ⟨verdict, ends⟩ | ⟨error, verdict, ends⟩ := judge_eq_ending walk ok rest
      · have drained : drain { walk with buffer := binding :: rest }
            = (none, (iterating root options previous found).endIteration) := by
          rw [drain]
          dsimp only
          rw [verdict]
          rfl
        change ending root options previous (binding :: rest) = _ at ends
        rw [ends]
        -- the end of the table is not reported, an error is
        exact yields_of_drain_none session tidy drained state
      · have drained : drain { walk with buffer := binding :: rest } = (some (.error error),
            { iterating root options previous found with phase := .done }) := by
          rw [drain]
          dsimp only
          rw [verdict]
          rfl
        change ending root options previous (binding :: rest) = _ at ends
        rw [ends]
        exact yields_of_drain_some session tidy drained state

/-! ## One reply after another -/

/-- A reply to an `iterationRequest` is taken in as it is. -/
theorem yields_reply (root : Oid) {cursor : Oid} (found : Nat) {state after : σ}
    {response : Response}
    (answered : (session.execute (iterationRequest options cursor)).run state
      = (.ok response, after))
    (noError : response.isError = false) (filled : response.bindings ≠ []) :
    Yields session (iterating root options cursor found, state) []
      ({ iterating root options cursor found with buffer := response.bindings }, after) := by
  have asked : (iterating root options cursor found).request?
      = some (iterationRequest options cursor) := by
    show (match options.bulk with | some counts => _ | none => _) = _
    rw [iterationRequest]
    split <;> rfl
  refine yields_of_absorb_none session rfl asked answered ?_
  show absorbBatch _ response = _
  rw [absorbBatch, noError, if_neg Bool.false_ne_true, if_neg filled]

/-- By induction on the replies: an iteration reports what `reference` says about all the bindings
it receives. -/
theorem yields_iteration {cursor : Oid} {state : σ} {batches : List (List VarBind)}
    (h : AnsweredBy session root options cursor state batches) (found : Nat) :
    ∃ after, Yields session (iterating root options cursor found, state)
      (reference root options cursor batches.flatten)
      (resume root options cursor found batches.flatten, after) := by
  induction batches generalizing cursor found state with
  | nil => exact ⟨state, Yields.refl _⟩
  | cons batch batches ih =>
    obtain ⟨filled, response, between, answered, noError, rfl, others⟩ := h
    have first : Yields session (iterating root options cursor found, state)
        (reference root options cursor response.bindings)
        (resume root options cursor found response.bindings, between) :=
      (yields_reply root found answered noError filled).trans (yields_buffer cursor found _ between)
    rw [List.flatten_cons]
    -- a batch that ends the iteration hides the others, from the walk and from the reference
    by_cases goesOn : ending root options cursor response.bindings = .goesOn
    · obtain ⟨after, rest⟩ := ih (others goesOn) (found + response.bindings.length)
      obtain ⟨reports, left⟩ := reference_of_goesOn goesOn found
      rw [reports, left] at first
      obtain ⟨reports, left⟩ := reference_append goesOn found batches.flatten
      rw [reports, left]
      exact ⟨after, first.trans rest⟩
    · obtain ⟨reports, left⟩ := reference_append_of_ended goesOn found batches.flatten
      rw [reports, left]
      exact ⟨between, first⟩

/-- A walk that is `Seeded` reports the answer about the root itself and then iterates. -/
theorem yields_seed {before after : σ} {seed : List VarBind}
    (h : Seeded session root options before seed after) :
    Yields session (start root options, before) (seed.map .ok)
      (iterating root options root seed.length, after) := by
  rw [Seeded] at h
  split at h
  case isTrue includeStart =>
    obtain ⟨response, answered, noError, rfl⟩ := h
    have asked : (start root options).request? = some (.get [root]) := by
      rw [start, includeStart]
      rfl
    have taken : (start root options).absorb (.ok response)
        = (start root options).absorbRoot response := by
      rw [start, includeStart]
      rfl
    have phase : (if (start root options).phase = .seed then Phase.iterate else .done)
        = .iterate := by
      rw [start, includeStart]
      rfl
    rw [absorbRoot, phase, Response.check_eq_ok noError] at taken
    -- a reply without bindings has no binding of the root to report
    cases first : response.bindings with
    | nil =>
      rw [first] at taken
      exact yields_of_absorb_none session rfl asked answered taken
    | cons binding rest =>
      rw [first] at taken
      exact yields_of_absorb_some session rfl asked answered taken
  case isFalse exclude =>
    obtain ⟨rfl, rfl⟩ := h
    have begins : start root options = iterating root options root 0 := by
      rw [start, eq_false_of_ne_true exclude]
      rfl
    rw [begins]
    exact Yields.refl _

/-! ## Any replies, cut in any way -/

/-- A walk reports what `reference` says about the bindings it receives, and another walk that
receives them otherwise cut, with or without bulk requests, reports the same and ends the same. -/
theorem reports_eq_reference {before between : σ} {seed : List VarBind}
    {batches : List (List VarBind)} (seeded : Seeded session root options before seed between)
    (answered : AnsweredBy session root options root between batches) :
    (∃ after, Yields session (start root options, before)
      (seed.map .ok ++ reference root options root batches.flatten)
      (resume root options root seed.length batches.flatten, after)) ∧
    ∀ {τ : Type} (other : Session (StateM τ)) (bulk : Option BulkCounts) (before' between' : τ)
      (cut : List (List VarBind)), Seeded other root { options with bulk } before' seed between' →
      AnsweredBy other root { options with bulk } root between' cut →
      cut.flatten = batches.flatten →
      ∃ after, Yields other (start root { options with bulk }, before')
        (seed.map .ok ++ reference root options root batches.flatten)
        ({ resume root options root seed.length batches.flatten with
          options := { options with bulk } }, after) := by
  constructor
  · obtain ⟨after, iteration⟩ := yields_iteration answered seed.length
    exact ⟨after, (yields_seed seeded).trans iteration⟩
  · intro τ other bulk before' between' cut seeded' answered' same
    obtain ⟨after, iteration⟩ := yields_iteration answered' seed.length
    rw [same, reference_bulk, resume_bulk] at iteration
    exact ⟨after, (yields_seed seeded').trans iteration⟩

/-- An agent that answers with these bindings, reply by reply. -/
def batchAgent (batches : List (List VarBind)) : ScriptedAgent where
  peer := ⟨.v4 ⟨127, 0, 0, 1⟩, 161⟩
  replies := batches.map fun bindings =>
    .answer (⟨.v2c, [], ⟨.response, 0, 0, 0, bindings⟩⟩ : Message).encode

/-- A session with such an agent. -/
def batchSession : Session (StateM ScriptedAgent) :=
  ScriptedAgent.session ⟨.v4 ⟨127, 0, 0, 1⟩, 161⟩ false {}

/-- What a session makes of one of these replies. -/
def batchResponse (requested : Oid) (bindings : List VarBind) : Response :=
  ⟨.noError, 0, [requested], bindings, some ⟨.v4 ⟨127, 0, 0, 1⟩, 161⟩⟩

/-- The third object under a root comes before the second, in bulk and one by one. -/
theorem reports_eq_reference_decreasing :
    let root : Oid := ⟨[1, 3]⟩
    let first : VarBind := ⟨⟨[1, 3, 1]⟩, .integer 7⟩
    let second : VarBind := ⟨⟨[1, 3, 3]⟩, .null⟩
    let third : VarBind := ⟨⟨[1, 3, 2]⟩, .integer 9⟩
    let reports : List Item :=
      [.ok first, .ok second, .error (.nonIncreasingOid second.oid third.oid)]
    (∃ after, Yields batchSession (start root {}, batchAgent [[first], [second], [third]])
      reports after) ∧
    ∃ after, Yields batchSession
      (start root { bulk := some {} }, batchAgent [[first, second], [third]]) reports after := by
  intro root first second third reports
  have seeded (options : WalkOptions) (batches : List (List VarBind))
      (exclude : options.includeStart = false) :
      Seeded batchSession root options (batchAgent batches) [] (batchAgent batches) := by
    rw [Seeded, if_neg (by rw [exclude]; decide)]
    exact ⟨rfl, rfl⟩
  have oneByOne : AnsweredBy batchSession root {} root (batchAgent [[first], [second], [third]])
      [[first], [second], [third]] :=
    .cons (batchResponse root [first]) (by decide +kernel) rfl (by decide) fun _ =>
      .cons (batchResponse first.oid [second]) (by decide +kernel) rfl (by decide)
        fun _ => .cons (batchResponse second.oid [third]) (by decide +kernel) rfl
          (by decide) fun goesOn => absurd goesOn (by decide +kernel)
  have inBulk : AnsweredBy batchSession root { bulk := some {} } root
      (batchAgent [[first, second], [third]]) [[first, second], [third]] :=
    .cons (batchResponse root [first, second]) (by decide +kernel) rfl (by decide)
      fun _ => .cons (batchResponse second.oid [third]) (by decide +kernel) rfl
        (by decide) fun goesOn => absurd goesOn (by decide +kernel)
  have expected : reference root {} root [first, second, third] = reports := by decide +kernel
  obtain ⟨⟨after, single⟩, others⟩ := reports_eq_reference (seeded {} _ rfl) oneByOne
  obtain ⟨after', bulk⟩ := others batchSession (some {}) _ _ _ (seeded { bulk := some {} } _ rfl)
    inBulk rfl
  exact ⟨⟨_, expected ▸ single⟩, ⟨_, expected ▸ bulk⟩⟩

end Walk

end SnmpManager
