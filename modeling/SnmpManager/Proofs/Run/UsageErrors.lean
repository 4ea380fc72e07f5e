import SnmpManager.Proofs.Command.Flags
import SnmpManager.Proofs.Command.Named
import SnmpManager.Proofs.Run.Blame

/-!
# Usage errors

A command that fails for the way it was called has sent nothing and printed nothing,
with one exception: a walk in bulk that gets its root first does so before it finds
that it may not ask for so many non-repeaters (`Config.runObserved_usage`).

- `Walk.Affordable`: a walk whose requests are never refused. `Walk.Barred`: a walk
  whose next request is. `Walk.RootFirst`: a walk that gets its root, and is barred
  from then on.
- `Config.SeededInBulk`: what the exception leaves behind.
-/

namespace SnmpManager

variable {σ τ : Type}

/-! ## Walks -/

namespace Walk

/-- A walk whose requests are never refused: if it is in bulk, the version carries that, and it does
not want more non-repeaters than the one object it asks about. -/
def Affordable (version : Version) (walk : Walk) : Prop :=
  ∀ counts, walk.options.bulk = some counts → version = .v2c ∧ counts.nonRepeaters.toNat ≤ 1

theorem Affordable.carried {version : Version} {walk : Walk} (h : walk.Affordable version) :
    walk.options.CarriedOver version :=
  fun counts bulk => (h counts bulk).1

/-- There is nothing that an `Affordable` walk could be blamed for. -/
theorem Affordable.not_mayBlame {version : Version} {walk : Walk} (h : walk.Affordable version)
    (fault : UsageFault) : ¬ walk.options.MayBlame fault := by
  rintro ⟨counts, bulk, many, -⟩
  exact absurd many (Nat.not_lt.mpr (h counts bulk).2)

section

variable {inner : Channel (StateM σ)} {settings : SessionSettings}

/-- A walk that asks in bulk, for more non-repeaters than the one object it asks about. -/
structure Barred (version : Version) (walk : Walk) : Prop where
  empty : walk.buffer = []
  phase : walk.phase = .iterate
  bulk : ∃ counts, walk.options.bulk = some counts ∧ version = .v2c ∧ 1 < counts.nonRepeaters.toNat

/-- Nothing is done for a walk that is `Barred`: its request is refused before it is sent. -/
theorem Barred.next (session : Session (StateM τ)) {walk : Walk}
    (h : walk.Barred session.settings.version) (state : τ) :
    Ensures (walk.next session) state fun result after =>
      after = state ∧ ∃ error, result.1 = some (.error error) := by
  obtain ⟨counts, bulk, v2c, many⟩ := h.bulk
  have asks : walk.request?
      = some (.getBulk [walk.cursor] counts.nonRepeaters counts.maxRepetitions) := by
    rw [request?, h.phase]
    simp only [bulk]
  have refused := Request.refusal?_of_few (show [walk.cursor].length < _ from many)
    counts.maxRepetitions
  rw [← v2c] at refused
  rw [next_eq_step session (tidy_of_buffer_eq_nil h.empty), step,
    drain_of_buffer_eq_nil h.empty]
  simp only [asks]
  rw [session.execute_of_refusal refused]
  exact ⟨rfl, _, rfl⟩

/-- A walk that gets its root first, and is `Barred` from then on. -/
structure RootFirst (version : Version) (root : Oid) (walk : Walk) : Prop where
  root : walk.root = root
  empty : walk.buffer = []
  phase : walk.phase = .seed
  bulk : ∃ counts, walk.options.bulk = some counts ∧ version = .v2c ∧ 1 < counts.nonRepeaters.toNat

/-- Whatever comes of getting the root, the walk is `Barred` unless it has failed. -/
theorem RootFirst.absorb {version : Version} {root : Oid} {walk : Walk}
    (h : walk.RootFirst version root) (outcome : Except Error Response)
    (goesOn : ∀ error, (walk.absorb outcome).1 ≠ some (.error error)) :
    (walk.absorb outcome).2.Barred version := by
  cases outcome with
  | error e => exact absurd rfl (goesOn e)
  | ok response =>
    have about_root : walk.absorb (.ok response) = walk.absorbRoot response := by
      rw [Walk.absorb, h.phase]
    rw [about_root, absorbRoot] at goesOn ⊢
    cases checked : response.check with
    | error e =>
      rw [checked] at goesOn
      exact absurd rfl (goesOn e)
    | ok bindings =>
      cases bindings with
      | nil => exact ⟨h.empty, if_pos h.phase, h.bulk⟩
      | cons first more => exact ⟨h.empty, if_pos h.phase, h.bulk⟩

/-- The messages that get one object. -/
def Getting (settings : SessionSettings) (root : Oid) (data : Octets) : Prop :=
  ∃ requestId, data = (Session.message settings (.get [root]) requestId).encode

/-- The first step of a `RootFirst` walk gets the root, and prints nothing by itself. -/
theorem RootFirst.next (channel : inner.Faultless) {root : Oid} {walk : Walk}
    (h : walk.RootFirst settings.version root) {ledger : Ledger (Printed σ)}
    (held : ledger.Holds (Getting settings root)) :
    Ensures (walk.next (Session.observed inner settings)) ledger fun result after =>
      after.Holds (Getting settings root) ∧ after.world.lines = ledger.world.lines ∧
        ∀ binding, result.1 = some (.ok binding) → result.2.Barred settings.version := by
  have asks : walk.request? = some (.get [root]) := by rw [request?, h.phase, h.root]
  -- the exchange gets the root and cannot be refused
  have exchange := ensures_and
    (Session.execute_holds (inner.lift Printed.onWorld) settings (.get [root])
      (fun _ requestId => ⟨requestId, rfl⟩) held)
    (Session.execute_faultless channel (show (Request.get [root]).refusal? _ = none from rfl)
      ledger)
  rw [next_eq_step _ (tidy_of_buffer_eq_nil h.empty), step, drain_of_buffer_eq_nil h.empty]
  simp only [asks]
  refine ensures_bind (ensures_mono exchange ?_)
  rintro outcome after ⟨held, same, -⟩
  have barred := h.absorb outcome
  split
  case h_1 item later absorbed =>
    rw [absorbed] at barred
    refine ⟨held, same, fun binding reported => barred fun error => ?_⟩
    rw [show some item = some (.ok binding) from reported]
    intro same
    cases same
  case h_2 later absorbed =>
    rw [absorbed] at barred
    -- nothing to report yet: the walk goes on at once, and is barred
    refine ensures_mono (Barred.next (Session.observed inner settings)
      (barred fun _ => (Option.some_ne_none _).symm) after) ?_
    rintro ⟨report, last⟩ _ ⟨rfl, error, reported⟩
    refine ⟨held, same, fun binding found => ?_⟩
    rw [show report = _ from reported] at found
    cases found

end

end Walk

/-! ## Whole runs -/

namespace Config

section

variable {inner : Channel (StateM σ)} {settings : SessionSettings} {terminal : Terminal (StateM σ)}
  {options : OutputOptions}

theorem ask_spares (channel : inner.Faultless) {request : Request}
    (passes : request.refusal? settings.version = none) :
    Spares (ask (Session.observed inner settings) request) fun _ => True := by
  refine (ask_confines (Session.observed_faultless channel settings) request).spares ?_
  intro fault refused
  cases passes.symm.trans refused

theorem printWalk_spares (channel : inner.Faultless) (printer : terminal.Faultless)
    (reports : Nat) {walk : Walk} (h : walk.Affordable settings.version) :
    Spares (printWalk (Session.observed inner settings) (observedTerminal terminal) options reports
      walk) fun _ => True :=
  (printWalk_confines (Session.observed_faultless channel settings)
    (observedTerminal_faultless printer) options h.carried reports rfl).spares h.not_mayBlame

/-- Nothing is sent or printed for a walk that is `Barred`. -/
theorem printWalk_barred (session : Session (StateM τ)) (terminal : Terminal (StateM τ))
    (reports : Nat) {walk : Walk} (h : walk.Barred session.settings.version) (state : τ) :
    Ensures (printWalk session terminal options reports walk).run state fun _ after =>
      after = state := by
  cases reports with
  | zero => exact rfl
  | succ reports =>
    rw [printWalk]
    refine ensures_lift_bind (ensures_mono (h.next session state) ?_)
    rintro ⟨report, later⟩ _ ⟨rfl, error, reported⟩
    rw [show report = _ from reported]
    exact rfl

/-- A `RootFirst` walk gets its root, and prints no more than that. -/
theorem printWalk_rootFirst (channel : inner.Faultless) (reports : Nat) {root : Oid} {walk : Walk}
    (h : walk.RootFirst settings.version root) {ledger : Ledger (Printed σ)}
    (quiet : Quiet ledger) :
    Ensures (printWalk (Session.observed inner settings) (observedTerminal terminal) options reports
      walk).run ledger fun _ after =>
        after.Holds (Walk.Getting settings root) ∧ after.world.lines.length ≤ 1 := by
  have held : ledger.Holds (Walk.Getting settings root) := by
    rw [Ledger.Holds, quiet.1]
    exact fun _ mem => absurd mem List.not_mem_nil
  cases reports with
  | zero =>
    refine ⟨held, ?_⟩
    show ledger.world.lines.length ≤ 1
    rw [quiet.2]
    exact Nat.zero_le 1
  | succ reports =>
    rw [printWalk]
    refine ensures_lift_bind (ensures_mono (h.next channel held) ?_)
    rintro ⟨report, later⟩ after ⟨held, same, barred⟩
    rw [quiet.2] at same
    have few : after.world.lines.length ≤ 1 := by rw [same]; exact Nat.zero_le 1
    rcases report with _ | error | binding
    · exact ⟨held, few⟩
    · exact ⟨held, few⟩
    · -- the root is printed, if the terminal takes it, and the next report is the refusal
      have printed : Ensures ((observedTerminal terminal).print (binding.line options)) after
          fun _ between => between.Holds (Walk.Getting settings root) ∧
            between.world.lines = after.world.lines ++ [binding.line options] := ⟨held, rfl⟩
      refine ensures_run_bind (ensures_mono printed ?_)
      rintro outcome between ⟨held, one⟩
      have few : between.world.lines.length ≤ 1 := by
        rw [one, same]
        exact Nat.le_refl 1
      cases outcome with
      | error e => exact ⟨held, few⟩
      | ok _ =>
        refine ensures_mono (printWalk_barred _ _ reports (barred binding rfl) between) ?_
        rintro _ _ rfl
        exact ⟨held, few⟩

/-- A walk fails with a usage error only while its bindings are printed; what comes before and after
is `Faultless`. -/
theorem runWalk_usage (printer : terminal.Faultless) {config : Config} {root : Oid} {reports : Nat}
    {post : Ledger (Printed σ) → Prop}
    (prints : ∀ ledger, Quiet ledger → Ensures (printWalk (Session.observed inner settings)
      (observedTerminal terminal) config.output reports (Walk.start root config.walk)).run ledger
        fun outcome after => Faultless outcome ∨ post after)
    {ledger : Ledger (Printed σ)} (quiet : Quiet ledger) :
    Ensures (runWalk (Session.observed inner settings) (observedTerminal terminal) config root
      reports).run ledger fun outcome after => Faultless outcome ∨ post after := by
  rw [runWalk]
  have looks : Ensures (Session.observed inner settings).channel.now ledger
      fun _ between => Quiet between := quiet
  refine ensures_lift_bind (ensures_mono looks fun start between quiet => ?_)
  refine ensures_run_bind (ensures_mono (prints between quiet) ?_)
  rintro (e | _ | walk) later prints
  · exact prints.imp (fun faultless => faultless_error (faultless e rfl)) id
  · exact .inl (faultless_ok _)
  -- what comes after the bindings fails only if the terminal does
  have rest := conclusion_spares (observedTerminal_faultless printer)
    (Session.observed inner settings) config.output start walk.found
  exact ensures_mono (rest later) fun _ _ spared => .inl spared.1

/-- `notify` refuses a notification before it is sent. -/
theorem notify_usage (channel : inner.Faultless) (uptime : UInt32) (trapOid : Oid)
    (bindings : List VarBind) {ledger : Ledger (Printed σ)} (quiet : Quiet ledger) :
    Ensures ((Session.observed inner settings).notify uptime trapOid bindings) ledger
      fun outcome after => Faultless outcome ∨ Quiet after := by
  rw [Session.notify]
  split
  case h_1 => exact .inr quiet
  case h_2 => exact .inl (channel.send _ _)

/-- What a notification can be blamed for is found while it is put together, or before it is
sent. -/
theorem runTrap_usage (channel : inner.Faultless) (hostUptime : StateM σ UInt64)
    (uptime trapOid : String) (bindings : List String) {ledger : Ledger (Printed σ)}
    (quiet : Quiet ledger) :
    Ensures (runTrap (Session.observed inner settings)
      (Ledger.onWorld (Printed.onWorld hostUptime)) uptime trapOid bindings).run ledger
        fun outcome after => Faultless outcome ∨ Quiet after := by
  rw [runTrap]
  refine ensures_pure_bind (fun _ _ => .inr quiet) fun since _ => ?_
  refine ensures_pure_bind (fun _ _ => .inr quiet) fun typed _ => ?_
  refine ensures_pure_bind (fun _ _ => .inr quiet) fun trap _ => ?_
  have looks : Ensures (Ledger.onWorld (Printed.onWorld hostUptime)) ledger
      fun _ between => Quiet between := quiet
  refine ensures_lift_bind (ensures_mono looks fun hostTicks between quiet => ?_)
  exact notify_usage channel _ _ _ quiet

/-- A command that asks once leaves everything `Quiet` if it fails with a usage error. -/
theorem runSession_asking_usage (channel : inner.Faultless) (printer : terminal.Faultless)
    {config : Config} {request : Request} (asks : config.request? = some request)
    (hostUptime : StateM σ UInt64) (reports : Nat) {ledger : Ledger (Printed σ)}
    (quiet : Quiet ledger) :
    Ensures (config.runObserved inner terminal hostUptime reports).run ledger fun outcome after =>
      Faultless outcome ∨ Quiet after := by
  have runs : config.runObserved inner terminal hostUptime reports = (do
      let bindings ← ask (Session.observed inner config.session) request
      printLines (observedTerminal terminal) config.output bindings
      return .finished) := by
    rw [runObserved, runSession, asks]
  rw [runs]
  cases refusal : request.refusal? config.session.version with
  | some fault =>
    rw [ask, Session.execute_of_refusal (Session.observed inner config.session) refusal]
    exact .inr quiet
  | none =>
    have spares : Spares (do
        let bindings ← ask (Session.observed inner config.session) request
        printLines (observedTerminal terminal) config.output bindings
        return Completion.finished) fun _ => True :=
      (ask_spares channel refusal).bind fun bindings _ =>
        (printLines_spares (observedTerminal_faultless printer) _ bindings).bind fun _ _ =>
          spares_pure trivial
    exact ensures_mono (spares ledger) fun _ _ spared => .inl spared.1

/-- A walk in bulk that gets its root first and asks for more non-repeaters than the one object it
asks about: it has got the root, and may have printed it. -/
structure SeededInBulk (config : Config) (ledger : Ledger (Printed σ)) : Prop where
  command : config.command = .bulkWalk
  includeStart : config.walk.includeStart = true
  many : 1 < config.bulk.nonRepeaters.toNat
  sent : ∃ root, config.target = .subtree root ∧
    ledger.Holds (Walk.Getting config.session root)
  printed : ledger.world.lines.length ≤ 1

/-- A walk that is `Affordable` at its start fails with no usage error. -/
theorem runWalk_affordable (channel : inner.Faultless) (printer : terminal.Faultless)
    {config : Config} (root : Oid) (reports : Nat)
    (h : (Walk.start root config.walk).Affordable settings.version)
    {ledger : Ledger (Printed σ)} (quiet : Quiet ledger) :
    Ensures (runWalk (Session.observed inner settings) (observedTerminal terminal) config root
      reports).run ledger fun outcome after => Faultless outcome ∨ Quiet after :=
  runWalk_usage printer (fun ledger _ =>
    ensures_mono (printWalk_spares channel printer reports h ledger)
      fun _ _ spared => .inl spared.1) quiet

/-- A walk in bulk fails with a usage error only before anything is done, or after its root, as
`SeededInBulk` has it. -/
theorem runWalk_bulk_usage (channel : inner.Faultless) (printer : terminal.Faultless)
    {config : Config} (command : config.command = .bulkWalk) {root : Oid}
    (target : config.target = .subtree root) (bulk : config.walk.bulk = some config.bulk)
    (v2c : config.session.version = .v2c) (reports : Nat) {ledger : Ledger (Printed σ)}
    (quiet : Quiet ledger) :
    Ensures (runWalk (Session.observed inner config.session) (observedTerminal terminal) config root
      reports).run ledger fun outcome after =>
        Faultless outcome ∨ Quiet after ∨ config.SeededInBulk after := by
  by_cases many : 1 < config.bulk.nonRepeaters.toNat
  case neg =>
    have affordable : (Walk.start root config.walk).Affordable config.session.version := by
      intro counts same
      cases bulk.symm.trans same
      exact ⟨v2c, Nat.not_lt.mp many⟩
    exact ensures_mono (runWalk_affordable channel printer root reports affordable quiet)
      fun _ _ => Or.imp_right Or.inl
  case pos =>
    have barred : ∃ counts, config.walk.bulk = some counts ∧ config.session.version = .v2c ∧
        1 < counts.nonRepeaters.toNat := ⟨config.bulk, bulk, v2c, many⟩
    refine runWalk_usage printer (fun ledger quiet => ?_) quiet
    -- the first request in bulk is refused; it comes first of all unless the root does
    cases first : config.walk.includeStart with
    | false =>
      have start : (Walk.start root config.walk).Barred config.session.version :=
        ⟨rfl, by rw [Walk.start, first]; rfl, barred⟩
      refine ensures_mono (printWalk_barred _ _ reports start ledger) ?_
      rintro outcome _ rfl
      exact .inr (.inl quiet)
    | true =>
      have start : (Walk.start root config.walk).RootFirst config.session.version root :=
        ⟨rfl, rfl, by rw [Walk.start, first]; rfl, barred⟩
      refine ensures_mono (printWalk_rootFirst channel reports start quiet) ?_
      rintro outcome after ⟨held, few⟩
      exact .inr (.inr ⟨command, first, many, ⟨root, target, held⟩, few⟩)

/-- A walk of an invocation that `make` accepts is in bulk if the command is, over a version that
carries that, and otherwise as the flags say. -/
theorem make_bulk {command : Command} {session : SessionSettings} {flags : Settings}
    {args : List String} {config : Config} (made : make command session flags args = .ok config) :
    (config.command = .bulkWalk →
      config.walk.bulk = some config.bulk ∧ config.session.version = .v2c) ∧
    (config.command ≠ .bulkWalk → config.walk.bulk = flags.request.walk.bulk) := by
  obtain ⟨_, carried, made⟩ := bind_eq_ok made
  obtain ⟨⟨bound, rest⟩, -, made⟩ := bind_eq_ok made
  obtain ⟨⟨agent, target⟩, -, made⟩ := bind_eq_ok made
  cases made
  refine ⟨?_, fun other => if_neg other⟩
  rintro rfl
  exact ⟨rfl, v2c_of_checkVersion (.inr (.inl rfl)) carried⟩

/-- Whatever the flags, the arguments and the agent: a command that fails with a usage error has
sent nothing and printed nothing, and so leaves everything `Quiet`, unless it is a walk in bulk that
got its root first. -/
theorem runObserved_usage {command : Command} {session : SessionSettings} {output : OutputOptions}
    {strings : List String} {flags : Settings} {args : List String} {config : Config}
    (applied : Invocation.applyAll (Settings.applyFlags command) { output } strings = .ok flags)
    (made : make command session flags args = .ok config)
    (channel : inner.Faultless) (printer : terminal.Faultless) (hostUptime : StateM σ UInt64)
    (reports : Nat) (world : σ) (nextId : Int32) :
    let result := (config.runObserved inner terminal hostUptime reports).run.run
      { world := { world }, nextId }
    ∀ error, result.1 = .error error → error.category = .usage →
      Quiet result.2 ∨ config.SeededInBulk result.2 := by
  have oneByOne : flags.request.walk.bulk = none :=
    Invocation.applyAll_preserves (fun flags => flags.request.walk.bulk = none)
      (fun flags string h => (Settings.bulk_of_readFlags command flags none string).trans h) rfl
      applied
  obtain ⟨inBulk, otherwise⟩ := make_bulk made
  have quiet : Quiet (Ledger.mk (Printed.mk world []) nextId [] [] []) := ⟨rfl, rfl⟩
  -- a usage error is not faultless, so it is one of the other two
  suffices outcome : Ensures (config.runObserved inner terminal hostUptime reports).run
      { world := { world }, nextId } fun outcome after =>
        Faultless outcome ∨ Quiet after ∨ config.SeededInBulk after by
    intro result error failed usage
    exact outcome.resolve_left fun faultless => faultless error failed usage
  cases asks : config.request? with
  | some request =>
    exact ensures_mono (runSession_asking_usage channel printer asks hostUptime reports quiet)
      fun _ _ => Or.imp_right Or.inl
  | none =>
    rw [runObserved, runSession, asks]
    dsimp only
    split
    case h_1 root target command =>
      have affordable : (Walk.start root config.walk).Affordable config.session.version := by
        intro counts bulk
        have single := otherwise (by rw [command]; decide)
        rw [oneByOne] at single
        cases single.symm.trans bulk
      exact ensures_mono (runWalk_affordable channel printer root reports affordable quiet)
        fun _ _ => Or.imp_right Or.inl
    case h_2 root target command =>
      obtain ⟨bulk, v2c⟩ := inBulk command
      exact runWalk_bulk_usage channel printer command target bulk v2c reports quiet
    case h_3 uptime trapOid bindings target command =>
      refine ensures_run_bind (ensures_mono
        (runTrap_usage channel hostUptime uptime trapOid bindings quiet) ?_)
      rintro (e | _) after done
      · exact done.imp (fun faultless => faultless_error (faultless e rfl)) Or.inl
      · exact .inl (faultless_ok _)
    case h_4 => exact .inr (.inl quiet)

end

/-- One object asked about in bulk is too few for five non-repeaters, so it is not asked about. -/
theorem runObserved_usage_bulkGet :
    let flags : Settings := { request := { bulk := { nonRepeaters := 5 } } }
    let config : Config := ⟨.bulkGet, some "gw", .objects [⟨[1, 3, 6, 1, 2, 1, 1]⟩], {}, {},
      flags.request.bulk, {}⟩
    let agent : ScriptedAgent := { peer := ⟨.v4 ⟨127, 0, 0, 1⟩, 161⟩ }
    let channel := (ScriptedAgent.channel agent.peer false).lift Rehearsal.onAgent
    let result := (config.runObserved channel Rehearsal.terminal (pure 0) 1).run.run
      { world := { world := { agent } }, nextId := 1 }
    Invocation.applyAll (Settings.applyFlags .bulkGet) {} ["n5"] = .ok flags ∧
      make .bulkGet {} flags ["gw", "system"] = .ok config ∧
      result.1 = .error (.usage (.tooFewObjects 5 1)) ∧ Quiet result.2 := by
  intro flags config agent channel result
  have applied : Invocation.applyAll (Settings.applyFlags .bulkGet) {} ["n5"] = .ok flags := by
    decide +kernel
  have made : make .bulkGet {} flags ["gw", "system"] = .ok config := by decide +kernel
  have failed : result.1 = .error (.usage (.tooFewObjects 5 1)) := by decide +kernel
  refine ⟨applied, made, failed, ?_⟩
  have usage := runObserved_usage applied made (Rehearsal.channel_faultless agent.peer false)
    Rehearsal.terminal_faultless (pure 0) 1 { agent } 1 _ failed rfl
  exact usage.resolve_right fun seeded => nomatch seeded.command

/-- A walk in bulk gets its root and prints it, and then fails with a usage error. -/
theorem usage_error_after_root :
    let flags : Settings := { request :=
      { walk := { includeStart := true }, bulk := { nonRepeaters := 2 } } }
    let root : Oid := ⟨[1, 3, 6, 1, 2, 1, 1]⟩
    let config : Config := ⟨.bulkWalk, some "gw", .subtree root, {},
      { includeStart := true, bulk := some flags.request.bulk }, flags.request.bulk, {}⟩
    let answer : Message := ⟨.v2c, [], ⟨.response, 0, 0, 0, [⟨root, .integer 1⟩]⟩⟩
    let result := Rehearsal.runSession config
      { agent := { peer := ⟨.v4 ⟨127, 0, 0, 1⟩, 161⟩, replies := [.answer answer.encode] } }
    Invocation.applyAll (Settings.applyFlags .bulkWalk) {} ["in2"] = .ok flags ∧
      make .bulkWalk {} flags ["gw", "system"] = .ok config ∧
      result.1 = .error (.usage (.tooFewObjects 2 1)) ∧
      result.2.agent.sent = [(Session.message {} (.get [root]) 1).encode] ∧
      result.2.transcript.output = "system = INTEGER: 1\n" := by
  decide +kernel

end Config

end SnmpManager
