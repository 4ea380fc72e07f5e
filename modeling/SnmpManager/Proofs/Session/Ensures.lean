/-!
# What an action ensures

Sessions and walks are programs over any channel. To say what they do over a
channel with a state, `Ensures` runs an action from a state and looks at its
result and at the state it leaves.

- `ensures_bind`, `ensures_mono`, `ensures_and`: one action after another, a weaker
  claim, and two claims about one action.
- `run_bind_of`: one action after another, where the first has been computed.
- `ensures_run_bind`, `ensures_lift_bind`, `ensures_pure_bind`, `ensures_optional`: the
  same for actions that may fail, where the first may fail, cannot, has been computed, or
  may be left out.
-/

namespace SnmpManager

variable {σ α β : Type}

/-- An action of a state monad, run from `before`, ends as `post` says. -/
def Ensures (action : StateM σ α) (before : σ) (post : α → σ → Prop) : Prop :=
  post (action.run before).1 (action.run before).2

/-- One action after another: the second is looked at from where the first ends. -/
theorem ensures_bind {first : StateM σ α} {second : α → StateM σ β} {before : σ}
    {post : β → σ → Prop}
    (h : Ensures first before fun a between => Ensures (second a) between post) :
    Ensures (first >>= second) before post :=
  h

/-- A weaker claim about what an action `Ensures`. -/
theorem ensures_mono {action : StateM σ α} {before : σ} {post post' : α → σ → Prop}
    (h : Ensures action before post) (weaker : ∀ a after, post a after → post' a after) :
    Ensures action before post' :=
  weaker _ _ h

/-- What an action does is left open. -/
theorem ensures_any (action : StateM σ α) (before : σ) : Ensures action before fun _ _ => True :=
  trivial

/-- Two claims about one action. -/
theorem ensures_and {action : StateM σ α} {before : σ} {post post' : α → σ → Prop}
    (h : Ensures action before post) (h' : Ensures action before post') :
    Ensures action before fun a after => post a after ∧ post' a after :=
  ⟨h, h'⟩

theorem run_bind_of {first : StateM σ α} {second : α → StateM σ β} {before between : σ} {a : α}
    (h : first.run before = (a, between)) :
    (first >>= second).run before = (second a).run between := by
  rw [StateT.run_bind, h]
  rfl

/-! ## Actions that may fail -/

variable {ε : Type} {before : σ} {post : Except ε β → σ → Prop}

/-- `ensures_bind` for actions that may fail: an error of the first is the end. -/
theorem ensures_run_bind {first : ExceptT ε (StateM σ) α} {second : α → ExceptT ε (StateM σ) β}
    (h : Ensures first.run before fun outcome between =>
      match outcome with
      | .error e => post (.error e) between
      | .ok a => Ensures (second a).run between post) :
    Ensures (first >>= second).run before post := by
  show Ensures (first.run >>= ExceptT.bindCont second) before post
  refine ensures_bind (ensures_mono h ?_)
  rintro (e | a) between next
  · exact next
  · exact next

/-- `ensures_bind` where the first action cannot fail. -/
theorem ensures_lift_bind {action : StateM σ α} {second : α → ExceptT ε (StateM σ) β}
    (h : Ensures action before fun a between => Ensures (second a).run between post) :
    Ensures (ExceptT.lift action >>= second).run before post :=
  h

/-- What has been computed fails or gives what comes next. -/
theorem ensures_pure_bind {outcome : Except ε α} {second : α → ExceptT ε (StateM σ) β}
    (failed : ∀ e, outcome = .error e → post (.error e) before)
    (h : ∀ a, outcome = .ok a → Ensures (second a).run before post) :
    Ensures (ExceptT.mk (pure outcome) >>= second).run before post := by
  cases outcome with
  | error e => exact failed e rfl
  | ok a => exact h a rfl

/-- An action that may be left out. -/
theorem ensures_optional {condition : Prop} [Decidable condition]
    {first : ExceptT ε (StateM σ) Unit} {second : Unit → ExceptT ε (StateM σ) β}
    (h : condition → Ensures (first >>= second).run before post)
    (h' : ¬ condition → Ensures (second ()).run before post) :
    Ensures (if condition then first >>= second else second ()).run before post := by
  split
  case isTrue asked => exact h asked
  case isFalse left => exact h' left

end SnmpManager
