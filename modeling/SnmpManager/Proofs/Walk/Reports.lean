import SnmpManager.Proofs.Session.Ensures
import SnmpManager.Proofs.Walk.Polls

/-!
# What a walk reports

The reports of a walk, poll by poll, until it ends.

- `Walk.reports`: the reports of so many polls.
- `Walk.Yields`: from here a walk reports some items and goes on from there. A
  step of the walk is one such fact, and they compose (`Yields.trans`).
-/

namespace SnmpManager

namespace Walk

/-- The reports of a walk over at most so many polls. -/
def reports {m : Type → Type} [Monad m] (session : Session m) : (polls : Nat) → Walk → m (List Item)
  | 0, _ => return []
  | polls + 1, walk => do
    match ← walk.next session with
    | (none, _) => return []
    | (some item, walk) => return item :: (← reports session polls walk)

variable {σ : Type} (session : Session (StateM σ))

/-- From one walk and state on, the reports are `items` and then those of another. -/
def Yields (here : Walk × σ) (items : List Item) (there : Walk × σ) : Prop :=
  ∀ polls, ((reports session (items.length + polls) here.1).run here.2).1
    = items ++ ((reports session polls there.1).run there.2).1

namespace Yields

variable {session}

theorem refl (here : Walk × σ) : Yields session here [] here := by
  intro polls
  rw [List.length_nil, Nat.zero_add, List.nil_append]

/-- Reports after reports: `Yields` composes. -/
theorem trans {here between there : Walk × σ} {first second : List Item}
    (h : Yields session here first between) (h' : Yields session between second there) :
    Yields session here (first ++ second) there := by
  intro polls
  rw [List.length_append, Nat.add_assoc, h, h', List.append_assoc]

/-- A poll with the same result as another has the same `reports` after it. -/
theorem of_next_eq {here there : Walk × σ}
    (h : (next session here.1).run here.2 = (next session there.1).run there.2) :
    Yields session here [] there := by
  intro polls
  rw [List.length_nil, Nat.zero_add, List.nil_append]
  cases polls with
  | zero => rfl
  | succ polls => rw [reports, reports, StateT.run_bind, StateT.run_bind, h]

/-- A poll with a report in front of those of the walk it leaves. -/
theorem of_next {here there : Walk × σ} {item : Item}
    (h : (next session here.1).run here.2 = ((some item, there.1), there.2)) :
    Yields session here [item] there := by
  intro polls
  rw [List.length_singleton, Nat.add_comm, reports, run_bind_of h]
  rfl

end Yields

/-! ## Steps of a walk -/

/-- A binding in the buffer is reported by `drain`, or an error about it. -/
theorem yields_of_drain_some {walk after : Walk} {item : Item} (tidy : walk.Tidy)
    (h : walk.drain = (some item, after)) (state : σ) :
    Yields session (walk, state) [item] (after, state) := by
  refine Yields.of_next ?_
  rw [next_eq_step session tidy, step, h]
  rfl

/-- A binding in the buffer ends the iteration, and the poll goes on. -/
theorem yields_of_drain_none {walk after : Walk} (tidy : walk.Tidy)
    (h : walk.drain = (none, after)) (state : σ) :
    Yields session (walk, state) [] (after, state) := by
  have empty := (drain_quiet h).1
  refine Yields.of_next_eq ?_
  rw [next_eq_step session tidy, next_eq_step session (tidy_of_buffer_eq_nil empty), step, step, h,
    drain_of_buffer_eq_nil empty]

/-- The answer to a request is reported by `absorb`, or an error about it. -/
theorem yields_of_absorb_some {walk after : Walk} {request : Request} {state state' : σ}
    {outcome : Except Error Response} {item : Item} (empty : walk.buffer = [])
    (asked : walk.request? = some request)
    (answered : (session.execute request).run state = (outcome, state'))
    (h : walk.absorb outcome = (some item, after)) :
    Yields session (walk, state) [item] (after, state') := by
  refine Yields.of_next ?_
  rw [next_eq_step session (tidy_of_buffer_eq_nil empty), step, drain_of_buffer_eq_nil empty]
  simp only [asked]
  rw [run_bind_of answered, h]
  rfl

/-- The answer to a request is taken in, and the poll goes on. -/
theorem yields_of_absorb_none {walk after : Walk} {request : Request} {state state' : σ}
    {outcome : Except Error Response} (empty : walk.buffer = [])
    (asked : walk.request? = some request)
    (answered : (session.execute request).run state = (outcome, state'))
    (h : walk.absorb outcome = (none, after)) :
    Yields session (walk, state) [] (after, state') := by
  refine Yields.of_next_eq ?_
  rw [next_eq_step session (tidy_of_buffer_eq_nil empty), step, drain_of_buffer_eq_nil empty]
  simp only [asked]
  rw [run_bind_of answered, h]

/-- A walk that has ended reports nothing. -/
theorem reports_done {walk : Walk} (empty : walk.buffer = []) (done : walk.phase = .done)
    (polls : Nat) (state : σ) : ((reports session polls walk).run state).1 = [] := by
  cases polls with
  | zero => rfl
  | succ polls =>
    have asks : walk.request? = none := by rw [request?, done]
    rw [reports, next_eq_step session (tidy_of_buffer_eq_nil empty), step,
      drain_of_buffer_eq_nil empty]
    simp only [asks]
    rfl

end Walk

end SnmpManager
