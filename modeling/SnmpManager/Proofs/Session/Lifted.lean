import SnmpManager.Session.Walk

/-!
# Sessions used from another monad

A session is lifted by lifting its channel. Where the map between the monads respects
what comes after what, an exchange over a lifted session is a lifted exchange, and a
poll of a walk is a lifted poll (`Lifts.execute`, `Lifts.next`).
-/

namespace SnmpManager

variable {m n : Type → Type} [Monad m] [Monad n]

/-- A map between monads that respects doing nothing, and one action after another. -/
structure Lifts (run : (α : Type) → m α → n α) : Prop where
  pure : ∀ {α : Type} (a : α), run α (Pure.pure a) = Pure.pure a
  bind : ∀ {α β : Type} (first : m α) (second : α → m β),
    run β (first >>= second) = run α first >>= fun a => run β (second a)

namespace Lifts

variable {run : (α : Type) → m α → n α} (lifts : Lifts run) (session : Session m)

include lifts

/-! ## Exchanges -/

/-- By induction on the fuel of `await`; what a message is interpreted as has nothing to do with the
monad. -/
theorem await (expected : Expected) (deadline : Duration) (fuel : Nat) :
    (session.lift (run _)).await expected deadline fuel
      = run _ (session.await expected deadline fuel) := by
  induction fuel with
  | zero => exact (lifts.pure _).symm
  | succ fuel ih =>
    rw [Session.await, Session.await, lifts.bind]
    refine bind_congr fun now => ?_
    dsimp only
    split
    case isTrue => exact (lifts.pure _).symm
    case isFalse =>
      rw [lifts.bind]
      refine bind_congr fun received => ?_
      split
      case h_1 => exact (lifts.pure _).symm
      case h_2 data =>
        split
        case h_1 => exact (lifts.pure _).symm
        case h_2 => exact (lifts.pure _).symm
        case h_3 => exact ih

/-- The actions of an attempt are lifted one by one, as `bind` of `Lifts` has it. -/
theorem attempt (request : Request) :
    (session.lift (run _)).attempt request = run _ (session.attempt request) := by
  rw [Session.attempt, Session.attempt, lifts.bind]
  refine bind_congr fun requestId => ?_
  rw [lifts.bind]
  refine bind_congr fun sent => ?_
  split
  case h_1 => exact (lifts.pure _).symm
  case h_2 =>
    rw [lifts.bind]
    refine bind_congr fun now => ?_
    rw [show (session.lift (run _)).settings = session.settings from rfl]
    cases now.after? session.settings.timeout with
    | none => exact (lifts.pure _).symm
    | some deadline =>
      dsimp only
      rw [lifts.bind]
      refine bind_congr fun backlog => ?_
      rw [lifts.bind, ← lifts.await]
      exact bind_congr fun outcome => (lifts.pure _).symm

theorem giveUp (start : Duration) (requestId : Int32) (retries : Nat) :
    (session.lift (run _)).giveUp start requestId retries
      = run _ (session.giveUp start requestId retries) := by
  rw [Session.giveUp, Session.giveUp, lifts.bind]
  exact bind_congr fun now => (lifts.pure _).symm

/-- By induction on the attempts that are left, with `attempt` for each. -/
theorem attempts (request : Request) (start : Duration) (retries left : Nat) :
    (session.lift (run _)).attempts request start retries left
      = run _ (session.attempts request start retries left) := by
  induction left with
  | zero =>
    rw [Session.attempts, Session.attempts, lifts.bind, lifts.attempt]
    refine bind_congr fun (requestId, result) => ?_
    cases result with
    | settled outcome => exact (lifts.pure _).symm
    | expired => exact lifts.giveUp session start requestId retries
  | succ left ih =>
    rw [Session.attempts, Session.attempts, lifts.bind, lifts.attempt]
    refine bind_congr fun (requestId, result) => ?_
    cases result with
    | settled outcome => exact (lifts.pure _).symm
    | expired => exact ih

/-- `execute` over a lifted session is a lifted exchange. -/
theorem execute (request : Request) :
    (session.lift (run _)).execute request = run _ (session.execute request) := by
  rw [Session.execute, Session.execute]
  split
  case isTrue => exact (lifts.pure _).symm
  case isFalse =>
    rw [show (session.lift (run _)).settings = session.settings from rfl]
    split
    case h_1 => exact (lifts.pure _).symm
    case h_2 =>
      rw [lifts.bind]
      exact bind_congr fun start => lifts.attempts session request start _ _

/-! ## Polls -/

/-- By induction on the fuel: a poll is an exchange, and perhaps a poll again. -/
theorem nextWithin (fuel : Nat) (walk : Walk) :
    walk.nextWithin (session.lift (run _)) fuel = run _ (walk.nextWithin session fuel) := by
  induction fuel generalizing walk with
  | zero => exact (lifts.pure _).symm
  | succ fuel ih =>
    rw [Walk.nextWithin, Walk.nextWithin]
    split
    case h_1 => exact (lifts.pure _).symm
    case h_2 =>
      split
      case h_1 => exact (lifts.pure _).symm
      case h_2 request _ =>
        rw [lifts.bind, lifts.execute]
        refine bind_congr fun outcome => ?_
        split
        case h_1 => exact (lifts.pure _).symm
        case h_2 later _ => exact ih later

/-- `Walk.next` over a lifted session is a lifted poll. -/
theorem next (walk : Walk) : walk.next (session.lift (run _)) = run _ (walk.next session) :=
  lifts.nextWithin session walk.phase.requests walk

end Lifts

end SnmpManager
