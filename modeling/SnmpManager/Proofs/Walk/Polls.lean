import SnmpManager.Proofs.Session.Ensures
import SnmpManager.Session.Walk

/-!
# What one poll does

`Walk.next` counts its requests. The count never runs out before there is
something to report, so a poll takes one step after another until then, and that
is all there is to it (`Walk.next_eq_step`).

- `Walk.Tidy`: only an iteration has bindings to judge, as in every walk there is.
- `Walk.requests`: how many requests a poll can make before it reports.
- `Walk.step`: judge what was received, or else make one request.
- `Walk.nextBy`: a poll with its round trips made in some other way.
- `Walk.Preserved`: a fact that a step preserves, and with it a poll.
-/

namespace SnmpManager

namespace Walk

/-- Only an iteration has bindings in its buffer. -/
def Tidy (walk : Walk) : Prop :=
  walk.buffer ≠ [] → walk.phase = .iterate

/-- How many requests can be made from here before there is something to report. -/
def requests (walk : Walk) : Nat :=
  if walk.buffer = [] then walk.phase.requests else 1

theorem tidy_of_buffer_eq_nil {walk : Walk} (h : walk.buffer = []) : walk.Tidy :=
  fun filled => absurd h filled

/-- A walk that is `Tidy` has as many requests left as its phase has, or fewer. -/
theorem Tidy.requests_le {walk : Walk} (tidy : walk.Tidy) :
    walk.requests ≤ walk.phase.requests := by
  rw [requests]
  split
  case isTrue => exact Nat.le_refl _
  case isFalse filled =>
    rw [tidy filled]
    decide

/-! ## Steps that report nothing -/

theorem drain_of_buffer_eq_nil {walk : Walk} (h : walk.buffer = []) :
    walk.drain = (none, walk) := by
  rw [drain, h]

theorem endIteration_requests_le (walk : Walk) : walk.endIteration.requests ≤ 1 := by
  rw [endIteration, requests, if_pos rfl]
  dsimp only
  split <;> simp [Phase.requests]

/-- `drain` leaves nothing in the buffer, unless there is something to report. -/
theorem drain_quiet {walk after : Walk} (h : walk.drain = (none, after)) :
    after.buffer = [] ∧ after.requests ≤ walk.requests := by
  rw [drain] at h
  split at h
  case h_1 empty =>
    cases h
    exact ⟨empty, Nat.le_refl _⟩
  case h_2 binding rest filled =>
    have one : walk.requests = 1 := by simp [requests, filled]
    dsimp only at h
    split at h
    case h_1 => cases h
    case h_2 =>
      cases h
      rw [one]
      exact ⟨rfl, endIteration_requests_le _⟩
    case h_3 => cases h

/-- An answer about the root that gives nothing to report only moves the walk to its next phase. -/
theorem absorbRoot_quiet {walk after : Walk} {response : Response}
    (h : walk.absorbRoot response = (none, after)) :
    after = { walk with phase := if walk.phase = .seed then .iterate else .done } := by
  rw [absorbRoot] at h
  split at h
  case h_1 => cases h
  case h_2 =>
    cases h
    rfl
  case h_3 => cases h

/-- A reply that gives nothing to report ends the iteration, or its bindings are judged next. -/
theorem absorbBatch_quiet {walk after : Walk} {response : Response}
    (h : walk.absorbBatch response = (none, after)) :
    after = walk.endIteration ∨
      response.bindings ≠ [] ∧ after = { walk with buffer := response.bindings } := by
  rw [absorbBatch] at h
  split at h
  case isTrue => cases h
  case isFalse =>
    split at h
    case isTrue =>
      cases h
      exact .inl rfl
    case isFalse filled =>
      cases h
      exact .inr ⟨filled, rfl⟩

/-- A walk that made a request without anything to report can make fewer `requests` from then on,
which is why a poll comes to an end. -/
theorem absorb_quiet {walk after : Walk} {request : Request} {outcome : Except Error Response}
    (empty : walk.buffer = []) (asked : walk.request? = some request)
    (h : walk.absorb outcome = (none, after)) : after.Tidy ∧ after.requests < walk.requests := by
  obtain ⟨root, options, cursor, phase, found, buffer⟩ := walk
  obtain rfl : buffer = [] := empty
  cases outcome with
  | error e => cases h
  | ok response =>
    cases phase with
    | done => cases asked
    | seed =>
      rw [absorbRoot_quiet h]
      exact ⟨tidy_of_buffer_eq_nil rfl, by simp [requests, Phase.requests]⟩
    | fallback =>
      rw [absorbRoot_quiet h]
      exact ⟨tidy_of_buffer_eq_nil rfl, by simp [requests, Phase.requests]⟩
    | iterate =>
      rcases absorbBatch_quiet h with rfl | ⟨filled, rfl⟩
      · exact ⟨tidy_of_buffer_eq_nil rfl, Nat.lt_succ_of_le (endIteration_requests_le _)⟩
      · exact ⟨fun _ => rfl, by simp [requests, filled, Phase.requests]⟩

/-! ## Polls -/

variable {m : Type → Type} [Monad m] (session : Session m)

/-- Judge what was received. If that gives nothing to report, make a request, and if that does not
either, go on. -/
def step (goOn : Walk → m (Option Item × Walk)) (walk : Walk) : m (Option Item × Walk) :=
  match walk.drain with
  | (some item, walk) => return (some item, walk)
  | (none, walk) =>
    match walk.request? with
    | none => return (none, walk)
    | some request => do
      match walk.absorb (← session.execute request) with
      | (some item, walk) => return (some item, walk)
      | (none, walk) => goOn walk

theorem nextWithin_succ (fuel : Nat) (walk : Walk) :
    nextWithin session (fuel + 1) walk = step session (nextWithin session fuel) walk :=
  rfl

/-- A `step` goes on only with walks that can make fewer requests. -/
theorem step_congr {first second : Walk → m (Option Item × Walk)} {walk : Walk}
    (h : ∀ later : Walk, later.Tidy → later.requests < walk.requests →
      first later = second later) : step session first walk = step session second walk := by
  rw [step, step]
  split
  case h_1 => rfl
  case h_2 after drained =>
    obtain ⟨empty, fewer⟩ := drain_quiet drained
    split
    case h_1 => rfl
    case h_2 request asked =>
      congr 1
      funext outcome
      split
      case h_1 => rfl
      case h_2 later absorbed =>
        obtain ⟨tidy, less⟩ := absorb_quiet empty asked absorbed
        exact h later tidy (Nat.lt_of_lt_of_le less fewer)

/-- A walk without `requests` left is over, and any fuel is enough. -/
theorem nextWithin_of_requests_eq_zero {walk : Walk} (h : walk.requests = 0) (fuel : Nat) :
    nextWithin session fuel walk = return (none, walk) := by
  have empty : walk.buffer = [] := by
    refine Decidable.byContradiction fun filled => ?_
    rw [requests, if_neg filled] at h
    cases h
  have asks : walk.request? = none := by
    rw [requests, if_pos empty] at h
    cases phase : walk.phase <;> rw [phase] at h
    case done => rw [request?, phase]
    all_goals cases h
  cases fuel with
  | zero => rw [nextWithin, drain_of_buffer_eq_nil empty]
  | succ fuel => simp only [nextWithin_succ, step, drain_of_buffer_eq_nil empty, asks]

/-- By induction on the fuel: more of it than there can be requests makes no difference. -/
theorem nextWithin_eq {walk : Walk} (tidy : walk.Tidy) {fuel fuel' : Nat}
    (enough : walk.requests ≤ fuel) (enough' : walk.requests ≤ fuel') :
    nextWithin session fuel walk = nextWithin session fuel' walk := by
  induction fuel generalizing walk fuel' with
  | zero =>
    have none : walk.requests = 0 := Nat.le_zero.mp enough
    rw [nextWithin_of_requests_eq_zero session none, nextWithin_of_requests_eq_zero session none]
  | succ fuel ih =>
    cases fuel' with
    | zero =>
      have none : walk.requests = 0 := Nat.le_zero.mp enough'
      rw [nextWithin_of_requests_eq_zero session none, nextWithin_of_requests_eq_zero session none]
    | succ fuel' =>
      rw [nextWithin_succ, nextWithin_succ]
      refine step_congr session fun later tidy' less => ?_
      exact ih tidy' (by omega) (by omega)

/-- A poll is one `step` after another. -/
theorem next_eq_step {walk : Walk} (tidy : walk.Tidy) :
    next session walk = step session (next session) walk := by
  have bound := tidy.requests_le
  rw [next, nextWithin_eq session tidy bound (Nat.le_succ_of_le bound), nextWithin_succ]
  -- what goes on needs fewer requests than are left, and fewer than a poll of its own allows
  refine step_congr session fun later tidy' less => ?_
  exact nextWithin_eq session tidy' (by omega) tidy'.requests_le

/-! ## Polls over any way to ask -/

/-- `Walk.nextWithin`, with its round trips made in some other way. -/
def nextBy (ask : Request → m (Except Error Response)) :
    (fuel : Nat) → Walk → m (Option Item × Walk)
  | 0, walk => return walk.drain
  | fuel + 1, walk =>
    match walk.drain with
    | (some item, walk) => return (some item, walk)
    | (none, walk) =>
      match walk.request? with
      | none => return (none, walk)
      | some request => do
        match walk.absorb (← ask request) with
        | (some item, walk) => return (some item, walk)
        | (none, walk) => nextBy ask fuel walk

/-- A poll is `nextBy` with the exchanges of the session. -/
theorem nextWithin_eq_nextBy (fuel : Nat) (walk : Walk) :
    nextWithin session fuel walk = nextBy session.execute fuel walk := by
  induction fuel generalizing walk with
  | zero => rfl
  | succ fuel ih =>
    have same : nextWithin session fuel = nextBy session.execute fuel := funext ih
    rw [nextWithin, same]
    rfl

/-! ## What a poll preserves -/

/-- A fact about what a walk has to report, the walk and the state of its channel that is preserved
by judging a binding, and by a round trip. -/
structure Preserved {σ : Type} (ask : Request → StateM σ (Except Error Response))
    (inv : Option Item → Walk → σ → Prop) : Prop where
  drain {walk : Walk} {state : σ} (h : inv none walk state) :
    inv walk.drain.1 walk.drain.2 state
  absorb {walk : Walk} {state : σ} {request : Request} (h : inv none walk state)
    (empty : walk.buffer = []) (asks : walk.request? = some request) :
    Ensures (ask request) state fun outcome after =>
      inv (walk.absorb outcome).1 (walk.absorb outcome).2 after

section

variable {σ : Type} {ask : Request → StateM σ (Except Error Response)}
  {inv : Option Item → Walk → σ → Prop}

/-- By induction on the fuel: what is `Preserved` by a step, the steps up to a report preserve. -/
theorem Preserved.nextBy (preserved : Preserved ask inv) (fuel : Nat) {walk : Walk} {state : σ}
    (h : inv none walk state) :
    Ensures (nextBy ask fuel walk) state fun result after => inv result.1 result.2 after := by
  induction fuel generalizing walk state with
  | zero => exact preserved.drain h
  | succ fuel ih =>
    have drains := preserved.drain h
    rw [Walk.nextBy]
    split
    case h_1 item after drained =>
      rw [drained] at drains
      exact drains
    case h_2 after drained =>
      rw [drained] at drains
      split
      case h_1 => exact drains
      case h_2 request asks =>
        refine ensures_bind (ensures_mono
          (preserved.absorb drains (drain_quiet drained).1 asks) ?_)
        intro outcome later absorbs
        split
        case h_1 item last absorbed =>
          rw [absorbed] at absorbs
          exact absorbs
        case h_2 last absorbed =>
          rw [absorbed] at absorbs
          -- the reply gave nothing to report, and the walk asks again with less fuel
          exact ih absorbs

/-- What is `Preserved` by the exchanges of a session holds after a poll. -/
theorem Preserved.next {session : Session (StateM σ)} (preserved : Preserved session.execute inv)
    {walk : Walk} {state : σ} (h : inv none walk state) :
    Ensures (walk.next session) state fun result after => inv result.1 result.2 after := by
  rw [Walk.next, nextWithin_eq_nextBy]
  exact preserved.nextBy walk.phase.requests h

end

end Walk

end SnmpManager
