import SnmpManager.Proofs.Walk.TableAgent

/-!
# Walks find everything

Over a session with an honest agent a walk reports exactly what the table has
under its root, whichever requests it makes and however much the agent says at
once (`Walk.reports_complete`).

- `Table.walked`: what there is to report.
- `Honest.yields_iteration`: an iteration reports what is in scope and then ends.
-/

namespace SnmpManager

/-- What a walk over a table reports before it iterates. -/
def Table.first (table : Table) (root : Oid) (options : WalkOptions) : List VarBind :=
  if options.includeStart then [table.get root] else []

/-- What a walk over a table reports: the root, if that is asked for first, what is in scope, in the
order of the table, and the root if that is nothing and the root is asked for then. -/
def Table.walked (table : Table) (root : Oid) (options : WalkOptions) : List VarBind :=
  let found := table.first root options ++
    table.entries.filter fun entry => InScope root options entry
  if found = [] ∧ options.fallbackOnEmpty then [table.get root] else found

/-- What is reported stage by stage is what `walked` says altogether. -/
theorem Table.map_walked (table : Table) (root : Oid) (options : WalkOptions) :
    ((table.first root options).map .ok ++ (table.scope root options root).map .ok) ++
      (if (table.first root options).length + (table.scope root options root).length = 0
          ∧ options.fallbackOnEmpty then [.ok (table.get root)] else [])
      = (table.walked root options).map (Except.ok : VarBind → Walk.Item) := by
  simp only [walked, ← scope_root, ← List.map_append, ← List.length_append,
    List.length_eq_zero_iff]
  split
  case isTrue empty =>
    rw [empty.1]
    rfl
  case isFalse => rw [List.append_nil]

/-- Whether a walk goes in bulk has no part in what `walked` says there is to report. -/
theorem Table.walked_bulk (table : Table) (root : Oid) (options : WalkOptions)
    (bulk : Option BulkCounts) :
    table.walked root { options with bulk } = table.walked root options := by
  have found : (table.entries.filter fun entry => InScope root { options with bulk } entry)
      = table.entries.filter fun entry => InScope root options entry := by
    refine List.filter_congr fun entry _ => ?_
    rw [decide_eq_decide, inScope_iff, inScope_iff]
  rw [walked, walked, found]
  rfl

/-- In answer to an `iterationRequest` comes a `row`: the objects that follow, at least one. -/
theorem Table.Answers.eq_row {table : Table} {options : WalkOptions} {cursor : Oid}
    {bindings : List VarBind}
    (answers : table.Answers (Walk.iterationRequest options cursor) bindings) :
    ∃ count, 1 ≤ count ∧ bindings = table.row cursor count := by
  rw [Walk.iterationRequest] at answers
  split at answers
  case h_1 bulk isBulk =>
    obtain ⟨nonRepeaters, maxRepetitions⟩ := bulk
    dsimp only at answers
    cases answers with
    | single => exact ⟨1, le_refl 1, rfl⟩
    | repeated _ _ count some => exact ⟨count, some, rfl⟩
  case h_2 =>
    cases answers
    exact ⟨1, le_refl 1, rfl⟩

theorem Table.Answers.eq_get {table : Table} {oid : Oid} {bindings : List VarBind}
    (answers : table.Answers (.get [oid]) bindings) : bindings = [table.get oid] := by
  cases answers
  rfl

theorem Table.row_ne_nil {table : Table} {oid : Oid} {count : Nat} (some : 1 ≤ count) :
    table.row oid count ≠ [] := by
  cases count with
  | zero => cases some
  | succ count => exact List.cons_ne_nil _ _

/-- The answer to the request in the `fallback` phase is the last report of a walk. -/
theorem Walk.absorb_of_fallback {walk : Walk} {response : Response} {binding : VarBind}
    {rest : List VarBind} (phase : walk.phase = .fallback) (noError : response.isError = false)
    (isFirst : response.bindings = binding :: rest) :
    walk.absorb (.ok response)
      = (some (.ok binding), { walk with phase := .done, found := walk.found + 1 }) := by
  have check := Response.check_eq_ok noError
  rw [isFirst] at check
  simp only [absorb, absorbRoot, phase, check]
  rfl

namespace Honest

open Walk

variable {σ : Type} {table : Table} {root : Oid} {options : WalkOptions}
  {session : Session (StateM σ)} {ready : σ → Prop} (h : Honest table root options session ready)
  (encodable : table.Encodable root)
  (inReach : Deadlines table root options session ready (· ≠ none))
  (counts : ∀ counts ∈ options.bulk, counts.nonRepeaters ≤ 1)

include h encodable inReach counts

/-- An iteration reports what is in `scope` and then ends, since each reply brings it past an object
that is ahead or ends it. -/
theorem yields_iteration {cursor : Oid}
    (known : cursor = root ∨ ∃ entry ∈ table.entries, entry.oid = cursor) (found : Nat)
    {state : σ} (isReady : ready state) :
    ∃ last after, ready after ∧
      Yields session (iterating root options cursor found, state)
        ((table.scope root options cursor).map .ok)
        ((iterating root options last
          (found + (table.scope root options cursor).length)).endIteration, after) := by
  -- on how many objects are ahead: each reply brings the walk past one of them or ends it
  induction length : (table.upcoming cursor).length using Nat.strong_induction_on
    generalizing cursor found state with
  | _ ahead ih =>
    have asks : Asks table root options (iterationRequest options cursor) := by
      rcases known with rfl | ⟨entry, mem, rfl⟩
      · exact .first
      · exact .after entry mem
    obtain ⟨isReady, response, answered, noError, answers⟩ :=
      h.execute_ensures encodable asks inReach counts isReady
    obtain ⟨count, some, isRow⟩ := answers.eq_row
    have filled : response.bindings ≠ [] := by
      rw [isRow]
      exact Table.row_ne_nil some
    have batch := (yields_reply root found (Prod.ext answered rfl) noError filled).trans
      (yields_buffer cursor found response.bindings _)
    rw [isRow] at batch
    rcases Table.scan_row table root options cursor count with
      ⟨stops, all⟩ | ⟨goesOn, rest, further⟩
    · obtain ⟨reports, left⟩ := reference_of_stops stops found
      rw [reports, left, all] at batch
      exact ⟨_, _, isReady, batch⟩
    · obtain ⟨reports, left⟩ := reference_of_goesOn goesOn found
      rw [reports, left] at batch
      have known' : lastOid cursor (table.row cursor count) = root ∨
          ∃ entry ∈ table.entries, entry.oid = lastOid cursor (table.row cursor count) := by
        rcases Table.last_row_mem goesOn with same | inTable
        · rw [same]
          exact known
        · exact .inr inTable
      -- at least one object was found, so fewer are ahead
      have fewer : (table.upcoming (lastOid cursor (table.row cursor count))).length < ahead := by
        omega
      obtain ⟨last, after, isReady, others⟩ :=
        ih _ fewer known' (found + (table.row cursor count).length) isReady rfl
      rw [rest, List.map_append, List.length_append, ← Nat.add_assoc]
      exact ⟨last, after, isReady, batch.trans others⟩

/-- The root, if it is asked for first, is answered, so the walk is `Seeded`. -/
theorem seeded {state : σ} (isReady : ready state) :
    ∃ after, ready after ∧
      Seeded session root options state (table.first root options) after := by
  rw [Table.first]
  by_cases includeStart : options.includeStart = true
  · obtain ⟨isReady, response, answered, noError, answers⟩ :=
      h.execute_ensures encodable .root inReach counts isReady
    refine ⟨_, isReady, ?_⟩
    rw [Seeded, if_pos includeStart, if_pos includeStart]
    refine ⟨response, Prod.ext answered rfl, noError, ?_⟩
    rw [answers.eq_get]
    rfl
  · refine ⟨state, isReady, ?_⟩
    rw [Seeded, if_neg includeStart, if_neg includeStart]
    exact ⟨rfl, rfl⟩

/-- What is left after an iteration, by `endIteration`: the root, if nothing was found and it is
asked for then. -/
theorem yields_endIteration (last : Oid) (found : Nat) {state : σ} (isReady : ready state) :
    ∃ walk after, walk.buffer = [] ∧ walk.phase = .done ∧
      Yields session ((iterating root options last found).endIteration, state)
        (if found = 0 ∧ options.fallbackOnEmpty then [.ok (table.get root)] else [])
        (walk, after) := by
  have phase : (iterating root options last found).endIteration.phase
      = if found = 0 ∧ options.fallbackOnEmpty then .fallback else .done := rfl
  by_cases empty : found = 0 ∧ options.fallbackOnEmpty = true
  · rw [if_pos empty] at phase ⊢
    obtain ⟨isReady, response, answered, noError, answers⟩ :=
      h.execute_ensures encodable .root inReach counts isReady
    have asked : (iterating root options last found).endIteration.request?
        = some (.get [root]) := by
      rw [request?, phase]
      rfl
    have taken := absorb_of_fallback phase noError answers.eq_get
    exact ⟨_, _, rfl, rfl, yields_of_absorb_some session rfl asked (Prod.ext answered rfl) taken⟩
  · rw [if_neg empty] at phase ⊢
    exact ⟨_, state, rfl, phase, Yields.refl _⟩

end Honest

namespace Walk

variable {σ : Type} {table : Table} {root : Oid} {options : WalkOptions}
  {session : Session (StateM σ)} {ready : σ → Prop}

/-- A walk over a session with an `Honest` agent reports what is `walked` and then ends. -/
theorem reports_eq_walked (h : Honest table root options session ready)
    (encodable : table.Encodable root)
    (inReach : Deadlines table root options session ready (· ≠ none))
    (counts : ∀ counts ∈ options.bulk, counts.nonRepeaters ≤ 1) {state : σ}
    (isReady : ready state) {polls : Nat}
    (enough : (table.walked root options).length ≤ polls) :
    ((reports session polls (start root options)).run state).1
      = (table.walked root options).map .ok := by
  obtain ⟨between, isReady, seed⟩ := h.seeded encodable inReach counts isReady
  obtain ⟨last, later, isReady, iteration⟩ := h.yields_iteration encodable inReach counts (.inl rfl)
    (table.first root options).length isReady
  obtain ⟨walk, after, empty, done, rest⟩ := h.yields_endIteration encodable inReach counts last
    ((table.first root options).length + (table.scope root options root).length) isReady
  have all := ((yields_seed seed).trans iteration).trans rest
  rw [table.map_walked] at all
  obtain ⟨more, rfl⟩ := Nat.exists_eq_add_of_le enough
  have reported := all more
  rw [reports_done session empty done, List.append_nil, List.length_map] at reported
  exact reported

/-- The first round trip of a walk is one that `Walk.Asks` allows. -/
theorem asks_start (table : Table) (root : Oid) (options : WalkOptions) :
    ∃ request, (start root options).request? = some request ∧
      Asks table root options request := by
  rw [request?, start]
  cases options.includeStart with
  | true => exact ⟨_, rfl, .root⟩
  | false =>
    refine ⟨iterationRequest options root, ?_, .first⟩
    rw [iterationRequest]
    dsimp only
    cases options.bulk <;> rfl

/-- A walk whose exchanges have no deadline ends in the first one, with `clockOverflow`: no part of
the table is reported. -/
theorem reports_of_overflow (h : Honest table root options session ready)
    (beyond : Deadlines table root options session ready (· = none))
    (counts : ∀ counts ∈ options.bulk, counts.nonRepeaters ≤ 1) {state : σ}
    (isReady : ready state) {polls : Nat} (polled : 0 < polls) :
    ((reports session polls (start root options)).run state).1 = [.error .clockOverflow] := by
  obtain ⟨request, asked, asks⟩ := asks_start table root options
  have failed := h.execute_overflows asks beyond counts isReady
  let after : Walk := { start root options with phase := .done, buffer := [] }
  have first : Yields session (start root options, state) [.error .clockOverflow]
      (after, ((session.execute request).run state).2) :=
    yields_of_absorb_some session rfl asked (Prod.ext failed rfl) rfl
  have rest (polls : Nat) (state : σ) : ((reports session polls after).run state).1 = [] :=
    reports_done session rfl rfl polls state
  obtain ⟨more, rfl⟩ := Nat.exists_eq_add_of_le polled
  have reported := first more
  rw [rest, List.append_nil] at reported
  exact reported

/-- A table with objects before, under and after a root. -/
def sampleTable : Table where
  entries := [⟨⟨[1, 3, 1]⟩, .integer 1⟩, ⟨⟨[1, 3, 2, 1]⟩, .null⟩,
    ⟨⟨[1, 3, 2, 1, 0]⟩, .integer (-1)⟩, ⟨⟨[1, 3, 2, 4]⟩, .counter32 9⟩,
    ⟨⟨[1, 3, 2, 7]⟩, .integer 4⟩, ⟨⟨[1, 4]⟩, .timeTicks 5⟩]
  ascending := by decide
  isValue := by decide

end Walk

end SnmpManager
