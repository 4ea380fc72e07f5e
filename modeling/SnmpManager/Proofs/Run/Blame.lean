import SnmpManager.Proofs.Run.Observed
import SnmpManager.Proofs.Walk.Polls

/-!
# Who is to blame

Over a channel and a terminal that blame nobody, the usage errors of a run are those
for which its requests are refused.

- `Blames`: an outcome whose usage errors are all among some faults.
- `Confines`: an action that has only such outcomes, and what it gives otherwise.
- `WalkOptions.MayBlame`: the faults for which a request of a walk is refused.
- `Config.ask_confines`, `Config.runWalk_confines`: commands that ask once, and walks.
-/

namespace SnmpManager

variable {σ : Type}

/-! ## Outcomes -/

section

variable {α β : Type} {allowed allowed' : UsageFault → Prop}

/-- An outcome whose usage errors are all `allowed`. -/
def Blames (allowed : UsageFault → Prop) (outcome : Except Error α) : Prop :=
  ∀ fault, outcome = .error (.usage fault) → allowed fault

theorem Faultless.blames {outcome : Except Error α} (h : Faultless outcome) :
    Blames allowed outcome :=
  fun _ failed => absurd rfl (h _ failed)

theorem Blames.mono {outcome : Except Error α} (h : Blames allowed outcome)
    (weaker : ∀ fault, allowed fault → allowed' fault) : Blames allowed' outcome :=
  fun fault failed => weaker fault (h fault failed)

/-- Where nothing is `allowed` there is no usage error. -/
theorem Blames.faultless {outcome : Except Error α} (h : Blames allowed outcome)
    (none : ∀ fault, ¬ allowed fault) : Faultless outcome := by
  rintro error failed usage
  cases error with
  | usage fault => exact none fault (h fault failed)
  | _ => cases usage

/-- The same error as the outcome of something else. -/
theorem Blames.error {error : Error} (h : Blames allowed (.error error : Except Error α)) :
    Blames allowed (.error error : Except Error β) := by
  rintro fault ⟨⟩
  exact h fault rfl

end

/-! ## Actions -/

/-- An action whose usage errors are all `allowed`, and that gives what `post` says. -/
def Confines {α : Type} (allowed : UsageFault → Prop) (action : ExceptT Error (StateM σ) α)
    (post : α → Prop) : Prop :=
  ∀ before, Ensures action.run before fun outcome _ =>
    Blames allowed outcome ∧ ∀ a, outcome = .ok a → post a

section

variable {α β : Type} {allowed allowed' : UsageFault → Prop} {post : α → Prop} {post' : β → Prop}

/-- An action that `Spares` the user has only usage errors that are allowed. -/
theorem Spares.confines {action : ExceptT Error (StateM σ) α} (h : Spares action post) :
    Confines allowed action post :=
  fun before => ensures_mono (h before) fun _ _ spared => ⟨spared.1.blames, spared.2⟩

/-- An action that `Confines` usage errors to none has none. -/
theorem Confines.spares {action : ExceptT Error (StateM σ) α} (h : Confines allowed action post)
    (none : ∀ fault, ¬ allowed fault) : Spares action post :=
  fun before => ensures_mono (h before) fun _ _ confined =>
    ⟨confined.1.faultless none, confined.2⟩

theorem confines_mk {action : StateM σ (Except Error α)}
    (h : ∀ before, Ensures action before fun outcome _ => Blames allowed outcome) :
    Confines allowed (ExceptT.mk action) fun _ => True :=
  fun before => ensures_mono (h before) fun _ _ blames => ⟨blames, fun _ _ => trivial⟩

theorem confines_pure {outcome : Except Error α} (h : Blames allowed outcome) :
    Confines allowed (ExceptT.mk (pure outcome) : ExceptT Error (StateM σ) α) fun _ => True :=
  confines_mk fun _ => h

theorem confines_throw {error : Error} (h : Blames allowed (.error error : Except Error α)) :
    Confines allowed (throw error : ExceptT Error (StateM σ) α) post :=
  fun _ => ⟨h, fun _ ok => nomatch ok⟩

/-- Both parts of an action may only be blamed for what is `allowed`; the second starts from what
the first gives. -/
theorem Confines.bind {first : ExceptT Error (StateM σ) α}
    {second : α → ExceptT Error (StateM σ) β} (h : Confines allowed first post)
    (h' : ∀ a, post a → Confines allowed (second a) post') :
    Confines allowed (first >>= second) post' := by
  intro before
  refine ensures_run_bind (ensures_mono (h before) ?_)
  rintro (e | a) between ⟨blames, gives⟩
  · exact ⟨blames.error, fun _ ok => nomatch ok⟩
  · exact h' a (gives a rfl) between

theorem Confines.mono {action : ExceptT Error (StateM σ) α} (h : Confines allowed action post)
    (weaker : ∀ fault, allowed fault → allowed' fault) : Confines allowed' action post :=
  fun before => ensures_mono (h before) fun _ _ confined => ⟨confined.1.mono weaker, confined.2⟩

end

/-! ## Exchanges -/

section

variable {session : Session (StateM σ)} (channel : session.channel.Faultless)
include channel

/-- No part of an exchange is a usage error, so an exchange over a channel that blames nobody
`Behaves` as one that `Blames` nobody. -/
theorem Session.behaves_blames {allowed : UsageFault → Prop} :
    session.Behaves (fun _ => True) (Blames allowed) where
  freshId _ := trivial
  now _ := trivial
  backlog _ := trivial
  send data state _ := ⟨trivial, fun e failed =>
    (faultless_error (channel.send data state e failed)).blames⟩
  receive requestId limit state _ := ⟨trivial, fun e failed =>
    (faultless_error (channel.receive requestId limit state e failed)).blames⟩
  timeout _ _ _ _ := Faultless.blames (faultless_error nofun)
  overflow := Faultless.blames (faultless_error nofun)
  misread h := (faultless_error (category_of_interpret h)).blames
  answered _ := (faultless_ok _).blames

/-- `execute` fails with a usage error only if its request is refused. -/
theorem Session.execute_blames (request : Request) (state : σ) :
    Ensures (session.execute request) state fun outcome _ =>
      Blames (fun fault => request.refusal? session.settings.version = some fault) outcome := by
  refine ensures_mono ((behaves_blames channel).execute request ?_ trivial) fun _ _ => And.right
  rintro fault refused _ ⟨⟩
  exact refused

/-- `notify` fails with no usage error over the version that carries notifications. -/
theorem Session.notify_blames {allowed : UsageFault → Prop}
    (v2c : session.settings.version = .v2c) (uptime : UInt32) (trapOid : Oid)
    (bindings : List VarBind) (state : σ) :
    Ensures (session.notify uptime trapOid bindings) state fun outcome _ =>
      Blames allowed outcome := by
  have carried :
      (Request.trap uptime trapOid bindings).check session.settings.version = .ok () := by
    rw [v2c]
    rfl
  rw [Session.notify]
  simp only [carried]
  refine ensures_bind (ensures_mono (ensures_any _ state) fun requestId between _ => ?_)
  exact (channel.send (message session.settings _ requestId).encode between).blames

end

/-- A channel is `Faultless` if it was before everything on it was written down. -/
theorem Session.observed_faultless {inner : Channel (StateM σ)} (channel : inner.Faultless)
    (settings : SessionSettings) : (Session.observed inner settings).channel.Faultless where
  send data state := channel.send data state.world.world
  receive requestId limit state := channel.receive requestId limit state.world.world

/-! ## Walks -/

/-- A walk can be blamed if it is in bulk and wants more non-repeaters than the one object it asks
about. -/
def WalkOptions.MayBlame (options : WalkOptions) (fault : UsageFault) : Prop :=
  ∃ counts, options.bulk = some counts ∧ 1 < counts.nonRepeaters.toNat ∧
    fault = .tooFewObjects counts.nonRepeaters 1

/-- The version carries a walk in bulk, if it is one. -/
def WalkOptions.CarriedOver (version : Version) (options : WalkOptions) : Prop :=
  ∀ counts, options.bulk = some counts → version = .v2c

namespace Walk

/-- A binding can only be at fault for its place, which `judge` blames on the agent. -/
theorem judge_faultless {walk : Walk} {binding : VarBind} {error : Error}
    (h : walk.judge binding = .fail error) : error.category ≠ .usage := by
  rw [judge] at h
  split_ifs at h
  · cases h
    exact nofun
  · split at h
    case h_1 => split at h <;> cases h
    case h_2 => cases h

/-- What `drain` reports is a binding that was left over, or is at fault for its place. -/
theorem drain_faultless (walk : Walk) {item : Item} (h : walk.drain.1 = some item) :
    Faultless item := by
  rw [drain] at h
  split at h
  case h_1 => cases h
  case h_2 binding rest _ =>
    dsimp only at h
    split at h
    case h_1 =>
      cases h
      exact faultless_ok _
    case h_2 => cases h
    case h_3 error verdict =>
      cases h
      exact faultless_error (judge_faultless verdict)

/-- What `absorb` makes of an answer is the error that came in its place, or the agent's fault. -/
theorem absorb_blames (walk : Walk) {allowed : UsageFault → Prop}
    {outcome : Except Error Response} (blames : Blames allowed outcome) {item : Item}
    (h : (walk.absorb outcome).1 = some item) : Blames allowed item := by
  cases outcome with
  | error e =>
    cases h
    exact blames.error
  | ok response =>
    -- once an answer has come, whatever is wrong is wrong with the answer
    refine Faultless.blames ?_
    rw [absorb] at h
    split at h
    case h_1 =>
      rw [absorbBatch] at h
      split at h
      case isTrue =>
        cases h
        refine faultless_error fun usage => ?_
        cases usage
      case isFalse => split at h <;> cases h
    case h_2 =>
      have checked := response.faultless_check
      rw [absorbRoot] at h
      split at h
      case h_1 e failed =>
        cases h
        exact faultless_error (checked e failed)
      case h_2 => cases h
      case h_3 =>
        cases h
        exact faultless_ok _

theorem drain_options (walk : Walk) : walk.drain.2.options = walk.options := by
  rw [drain]
  split
  case h_1 => rfl
  case h_2 =>
    dsimp only
    split <;> rfl

/-- `absorb` leaves the options of a walk as they are. -/
theorem absorb_options (walk : Walk) (outcome : Except Error Response) :
    (walk.absorb outcome).2.options = walk.options := by
  cases outcome with
  | error e => rfl
  | ok response =>
    rw [absorb]
    split
    case h_1 =>
      rw [absorbBatch]
      split_ifs <;> rfl
    case h_2 =>
      rw [absorbRoot]
      split <;> rfl

/-- The request of a walk is about one object, so only non-repeaters can be too many for it, and
those its options `MayBlame`. -/
theorem mayBlame_of_refusal {walk : Walk} {version : Version} {request : Request}
    {fault : UsageFault} (carried : walk.options.CarriedOver version)
    (asks : walk.request? = some request) (refused : request.refusal? version = some fault) :
    walk.options.MayBlame fault := by
  rw [request?] at asks
  split at asks
  case h_1 => cases asks
  case h_2 =>
    split at asks
    case h_1 counts bulk =>
      cases asks
      obtain rfl := carried counts bulk
      obtain ⟨rfl, few⟩ := Request.few_of_refusal? refused
      exact ⟨counts, bulk, few, rfl⟩
    case h_2 =>
      cases asks
      cases refused
  all_goals
    cases asks
    cases refused

/-- The step of a walk: what `next` reports is blamed on its options only, which stay as they
are. -/
theorem preserved_blames {session : Session (StateM σ)} (channel : session.channel.Faultless)
    {options : WalkOptions} (carried : options.CarriedOver session.settings.version) :
    Preserved session.execute fun report walk _ =>
      (∀ item, report = some item → Blames options.MayBlame item) ∧ walk.options = options where
  drain {walk state} h := by
    refine ⟨fun item drained => ?_, walk.drain_options.trans h.2⟩
    exact (walk.drain_faultless drained).blames
  absorb {walk state request} h empty asks := by
    obtain ⟨-, rfl⟩ := h
    refine ensures_mono (session.execute_blames channel request state) ?_
    intro outcome after refusal
    refine ⟨fun item => walk.absorb_blames ?_, walk.absorb_options outcome⟩
    exact refusal.mono fun fault refused => mayBlame_of_refusal carried asks refused

end Walk

/-! ## Commands -/

namespace Config

/-- Lines are printed one after another over a terminal that blames nobody. -/
theorem printLines_spares {terminal : Terminal (StateM σ)} (printer : terminal.Faultless)
    (options : OutputOptions) (bindings : List VarBind) :
    Spares (printLines terminal options bindings) fun _ => True := by
  induction bindings with
  | nil => exact spares_pure trivial
  | cons binding rest ih =>
    rw [printLines]
    exact (print_spares printer _).bind fun _ _ => ih

/-- What `runWalk` says after the bindings of a walk. -/
theorem conclusion_spares {terminal : Terminal (StateM σ)} (printer : terminal.Faultless)
    (session : Session (StateM σ)) (options : OutputOptions) (start : Duration) (found : Nat) :
    Spares (do
      let finish ← ExceptT.lift session.channel.now
      if options.summary then
        ExceptT.mk (terminal.print (summaryLine found))
      if options.time then
        ExceptT.mk (terminal.remark (traversalTime (finish.since start) ++ "\n"))
      return Completion.finished) fun _ => True := by
  refine (spares_lift fun _ => ensures_any _ _).bind fun finish _ => ?_
  refine Spares.optional (print_spares printer _) ?_
  exact Spares.optional (remark_spares printer _) (spares_pure trivial)

section

variable {session : Session (StateM σ)} (channel : session.channel.Faultless)
  {terminal : Terminal (StateM σ)} (printer : terminal.Faultless)
include channel

/-- `ask` is blamed for what its request is refused for. -/
theorem ask_confines (request : Request) :
    Confines (fun fault => request.refusal? session.settings.version = some fault)
      (ask session request) fun _ => True := by
  rw [ask]
  refine (confines_mk (session.execute_blames channel request)).bind fun response _ => ?_
  exact confines_pure response.faultless_check.blames

include printer

/-- By induction on the reports: `printWalk` is blamed on the options of the walk only. -/
theorem printWalk_confines (output : OutputOptions) {options : WalkOptions}
    (carried : options.CarriedOver session.settings.version) (reports : Nat) {walk : Walk}
    (h : walk.options = options) :
    Confines options.MayBlame (printWalk session terminal output reports walk) fun _ => True := by
  induction reports generalizing walk with
  | zero => exact (spares_pure trivial).confines
  | succ reports ih =>
    rw [printWalk]
    refine (spares_lift fun state =>
      (Walk.preserved_blames channel carried).next ⟨nofun, h⟩).confines.bind ?_
    rintro ⟨_ | error | binding, after⟩ ⟨blames, same⟩
    · exact (spares_pure trivial).confines
    · exact confines_throw (blames _ rfl).error
    · exact (print_spares printer _).confines.bind fun _ _ => ih same

/-- A walk may be blamed for what `MayBlame` has, and for nothing else. -/
theorem runWalk_confines (config : Config)
    (carried : config.walk.CarriedOver session.settings.version) (root : Oid) (reports : Nat) :
    Confines config.walk.MayBlame (runWalk session terminal config root reports)
      fun _ => True := by
  rw [runWalk]
  refine (spares_lift fun _ => ensures_any _ _).confines.bind fun start _ => ?_
  refine (printWalk_confines channel printer config.output carried reports rfl).bind ?_
  rintro (_ | walk) -
  · exact (spares_pure trivial).confines
  · exact (conclusion_spares printer session config.output start walk.found).confines

end

end Config

end SnmpManager
