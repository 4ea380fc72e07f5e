import SnmpManager.Proofs.Session.Answers
import SnmpManager.Run.Rehearsal

/-!
# Runs that are watched

What a command does is seen by writing down, beside the state of an arbitrary channel
and an arbitrary terminal, what is sent over the one and printed on the other. What
it may fail with is one of two kinds: the user is at fault for it, or the world is.

- `Printed`: the state of a terminal, and the lines printed on it.
- `Config.runObserved`: a run of a command over which everything is written down that
  is sent and printed.
- `Faultless`: outcomes that are no usage errors, and `Spares`: actions that never fail
  with one.
- `Session.execute_faultless`: an exchange prints nothing, and is no usage error unless
  its request is refused.
-/

namespace SnmpManager

variable {σ τ : Type}

/-! ## What is printed -/

/-- The state of a terminal, and the lines printed on it. -/
structure Printed (σ : Type) where
  world : σ
  /-- The lines printed, in order. -/
  lines : List String := []

namespace Printed

/-- Act on the terminal's own state, and leave the lines alone. -/
def onWorld {α : Type} (action : StateM σ α) : StateM (Printed σ) α :=
  fun printed =>
    let (a, world) := action printed.world
    (a, { printed with world })

/-- Write down a line. -/
def noteLine (line : String) : StateM (Printed σ) Unit :=
  fun printed => ((), { printed with lines := printed.lines ++ [line] })

/-- The terminal, with every line of output written down. -/
def terminal (inner : Terminal (StateM σ)) : Terminal (StateM (Printed σ)) :=
  { inner.lift onWorld with
    print := fun line => do
      noteLine line
      onWorld (inner.print line) }

end Printed

/-! ## Usage errors -/

/-- An outcome that is no usage error. -/
def Faultless {α : Type} (outcome : Except Error α) : Prop :=
  ∀ error, outcome = .error error → error.category ≠ .usage

theorem faultless_ok {α : Type} (a : α) : Faultless (.ok a) :=
  fun _ failed => nomatch failed

theorem faultless_error {α : Type} {error : Error} (h : error.category ≠ .usage) :
    Faultless (.error error : Except Error α) := by
  rintro _ ⟨⟩
  exact h

/-- A channel that works or fails, but blames nobody for it. -/
structure Channel.Faultless (channel : Channel (StateM σ)) : Prop where
  send : ∀ data state, SnmpManager.Faultless ((channel.send data).run state).1
  receive : ∀ requestId limit state,
    SnmpManager.Faultless ((channel.receive requestId limit).run state).1

/-- A terminal that works or fails, but blames nobody for it. -/
structure Terminal.Faultless (terminal : Terminal (StateM σ)) : Prop where
  print : ∀ line state, SnmpManager.Faultless ((terminal.print line).run state).1
  remark : ∀ line state, SnmpManager.Faultless ((terminal.remark line).run state).1

/-- An action that never fails with a usage error, and gives what `post` says. -/
def Spares {α : Type} (action : ExceptT Error (StateM τ) α) (post : α → Prop) : Prop :=
  ∀ before, Ensures action.run before fun outcome _ =>
    Faultless outcome ∧ ∀ a, outcome = .ok a → post a

section

variable {α β : Type} {post : α → Prop} {post' : β → Prop}

theorem spares_pure {a : α} (h : post a) : Spares (pure a : ExceptT Error (StateM τ) α) post := by
  refine fun _ => ⟨faultless_ok a, ?_⟩
  rintro _ ⟨⟩
  exact h

theorem spares_mk {action : StateM τ (Except Error α)}
    (h : ∀ before, Faultless (action.run before).1) :
    Spares (ExceptT.mk action) fun _ => True :=
  fun before => ⟨h before, fun _ _ => trivial⟩

theorem spares_lift {action : StateM τ α}
    (h : ∀ before, Ensures action before fun a _ => post a) :
    Spares (ExceptT.lift action) post := by
  intro before
  refine ⟨faultless_ok _, ?_⟩
  rintro _ ⟨⟩
  exact h before

/-- Both parts of an action `Spares` the user; the second starts from what the first gives. -/
theorem Spares.bind {first : ExceptT Error (StateM τ) α}
    {second : α → ExceptT Error (StateM τ) β} (h : Spares first post)
    (h' : ∀ a, post a → Spares (second a) post') : Spares (first >>= second) post' := by
  intro before
  refine ensures_run_bind (ensures_mono (h before) ?_)
  rintro (e | a) between ⟨faultless, gives⟩
  · exact ⟨faultless_error (faultless e rfl), fun _ ok => nomatch ok⟩
  · exact h' a (gives a rfl) between

/-- An action that may be left out. -/
theorem Spares.optional {condition : Prop} [Decidable condition]
    {first : ExceptT Error (StateM τ) Unit} {second : Unit → ExceptT Error (StateM τ) β}
    (h : Spares first fun _ => True) (h' : Spares (second ()) post') :
    Spares (if condition then first >>= second else second ()) post' := by
  split
  case isTrue => exact h.bind fun _ _ => h'
  case isFalse => exact h'

end

namespace Rehearsal

/-- A scripted agent may fail to answer, but its channel is `Faultless`. -/
theorem channel_faultless (peer : SocketAddress) (isStream : Bool) :
    ((ScriptedAgent.channel peer isStream).lift onAgent).Faultless where
  send data state := faultless_ok ()
  receive requestId limit state := by
    show Faultless (state.agent.reply requestId limit).1
    rw [ScriptedAgent.reply]
    split
    case h_1 => exact faultless_error nofun
    case h_2 next rest _ =>
      cases next with
      | answer data =>
        unfold ScriptedAgent.outcome
        dsimp only
        split <;> exact faultless_ok _
      | verbatim data => exact faultless_ok data
      | silence => exact faultless_error nofun
      | failure text => exact faultless_error nofun

theorem terminal_faultless : terminal.Faultless where
  print line state := by
    show Faultless (state.transcript.add line).1
    rw [Transcript.add]
    split
    case isTrue => exact faultless_ok ()
    case isFalse => exact faultless_error nofun
  remark line state := faultless_ok ()

end Rehearsal

/-! ## Exchanges -/

/-- What `interpret` cannot make sense of is the agent's fault. -/
theorem category_of_interpret {expected : Expected} {data : Octets} {error : Error}
    (h : interpret expected data = .error error) : error.category ≠ .usage := by
  unfold interpret at h
  split at h
  case h_1 =>
    cases h
    exact nofun
  case h_2 =>
    dsimp only at h
    split at h
    case isTrue =>
      cases h
      exact nofun
    case isFalse =>
      split at h
      case isTrue =>
        cases h
        exact nofun
      case isFalse => split at h <;> cases h

/-- `Response.check` fails for an error that an agent reports, which is not the user's. -/
theorem Response.faultless_check (response : Response) : Faultless response.check := by
  unfold Response.check Response.error?
  split
  case h_1 error h =>
    split at h <;> cases h
    exact faultless_error nofun
  case h_2 => exact faultless_ok _

namespace Session

/-- The session over which is written down what is sent and printed. -/
def observed (inner : Channel (StateM σ)) (settings : SessionSettings) :
    Session (StateM (Ledger (Printed σ))) :=
  ledgered (inner.lift Printed.onWorld) settings

variable {inner : Channel (StateM σ)} {settings : SessionSettings}

/-- An exchange prints nothing, and is no usage error if its request is not refused: each part of it
`Behaves` so. -/
theorem behaves_faultless (channel : inner.Faultless) (lines : List String) :
    (observed inner settings).Behaves (fun ledger => ledger.world.lines = lines) Faultless where
  freshId h := h
  now h := h
  backlog h := h
  send data state h := ⟨h, fun e failed =>
    faultless_error (channel.send data state.world.world e failed)⟩
  receive requestId limit state h := by
    have received : Ensures
        (Ledger.onWorld ((inner.lift Printed.onWorld).receive requestId limit)) state
        fun outcome after => after.world.lines = lines ∧ Faultless outcome :=
      ⟨h, channel.receive requestId limit state.world.world⟩
    refine ensures_bind (ensures_mono received ?_)
    rintro (e | data) between ⟨h, faultless⟩
    · exact ⟨h, fun e failed => faultless_error (faultless e failed)⟩
    · exact ⟨h, fun _ failed => nomatch failed⟩
  timeout target elapsed requestId retries := faultless_error nofun
  overflow := faultless_error nofun
  misread h := faultless_error (category_of_interpret h)
  answered h := faultless_ok _

/-- `behaves_faultless` for an exchange whose request is not refused. -/
theorem execute_faultless (channel : inner.Faultless) {request : Request}
    (passes : request.refusal? settings.version = none) (ledger : Ledger (Printed σ)) :
    Ensures ((observed inner settings).execute request) ledger fun outcome after =>
      after.world.lines = ledger.world.lines ∧ Faultless outcome := by
  refine (behaves_faultless channel ledger.world.lines).execute request ?_ rfl
  intro fault refused
  rw [show (observed inner settings).settings.version = settings.version from rfl,
    passes] at refused
  cases refused

end Session

/-! ## Runs -/

namespace Config

/-- Nothing was sent and nothing printed. -/
def Quiet (ledger : Ledger (Printed σ)) : Prop :=
  ledger.sent = [] ∧ ledger.world.lines = []

/-- The terminal of a run over which is written down what is sent and printed. -/
def observedTerminal (inner : Terminal (StateM σ)) : Terminal (StateM (Ledger (Printed σ))) :=
  (Printed.terminal inner).lift Ledger.onWorld

/-- A run of a command over which is written down what is sent and printed. -/
def runObserved (config : Config) (inner : Channel (StateM σ)) (terminal : Terminal (StateM σ))
    (hostUptime : StateM σ UInt64) (reports : Nat) :
    ExceptT Error (StateM (Ledger (Printed σ))) Completion :=
  config.runSession (Session.observed inner config.session) (observedTerminal terminal)
    (Ledger.onWorld (Printed.onWorld hostUptime)) reports

section

variable {terminal : Terminal (StateM σ)} (printer : terminal.Faultless)
include printer

/-- Writing down what is printed blames nobody: `observedTerminal` is as `Faultless` as the
terminal. -/
theorem observedTerminal_faultless : (observedTerminal terminal).Faultless where
  print line before := printer.print line before.world.world
  remark line before := printer.remark line before.world.world

theorem print_spares (line : String) :
    Spares (ExceptT.mk (terminal.print line)) fun _ => True :=
  spares_mk (printer.print line)

theorem remark_spares (line : String) :
    Spares (ExceptT.mk (terminal.remark line)) fun _ => True :=
  spares_mk (printer.remark line)

end

end Config

end SnmpManager
