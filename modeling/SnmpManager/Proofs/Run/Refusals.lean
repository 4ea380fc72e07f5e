import SnmpManager.Proofs.Run.Notifications
import SnmpManager.Proofs.Run.Questions
import SnmpManager.Proofs.Run.UsageErrors

/-!
# What is left to refuse

What an accepted invocation asks for is checked again when it is run, by the session
and by what puts notifications together. Of these checks two can still fail: that of
the counts of a request in bulk, and that of the types in a notification
(`Config.runSession_blames`).

- `Notification.ofTexts_blames`: what a notification can be blamed for.
- `Config.MayBlame`: the faults that an accepted invocation may still have.
-/

namespace SnmpManager

variable {σ : Type}

/-! ## Notifications -/

/-- That a text means nothing is no usage error. -/
theorem faultless_of_meaningless {α : Type} {error : Error}
    (h : error.category = .valueNotation) : Faultless (.error error : Except Error α) := by
  refine faultless_error ?_
  rw [h]
  decide

theorem Oid.faultless_parse (text : String) : Faultless (Oid.parse text) := by
  rw [parse]
  split
  case isTrue => exact faultless_of_meaningless rfl
  case isFalse =>
    split
    case h_1 => exact faultless_of_meaningless rfl
    case h_2 arcs _ =>
      split
      case h_1 => exact faultless_of_meaningless rfl
      case h_2 => exact faultless_ok _

theorem Mib.faultless_addSuffix (text : String) (base : Oid) (suffix : List Char) :
    Faultless (Mib.addSuffix text base suffix) := by
  rw [addSuffix]
  split
  case h_1 => exact faultless_of_meaningless rfl
  case h_2 tail _ =>
    dsimp only
    split
    case h_1 => exact faultless_of_meaningless rfl
    case h_2 => exact faultless_ok _

theorem Mib.faultless_resolve (text : String) : Faultless (Mib.resolve text) := by
  unfold resolve
  dsimp only
  split
  case isTrue => exact Oid.faultless_parse text
  case isFalse =>
    split
    case h_1 => exact faultless_of_meaningless rfl
    case h_2 node _ =>
      split
      case h_1 => exact faultless_ok _
      case h_2 suffix _ => exact faultless_addSuffix text _ suffix

theorem Uptime.faultless_parse (text : String) : Faultless (Uptime.parse text) := by
  rw [parse]
  split_ifs
  · exact faultless_ok _
  · split
    case h_1 n _ => exact faultless_ok _
    case h_2 => exact faultless_of_meaningless rfl

/-- `Literal.parse` blames the text of a literal, unless there is no type. -/
theorem Literal.parse_blames (oid type text : String) :
    Blames (fun fault => fault = .trapArguments ∧ type = "") (parse oid type text) := by
  rw [parse]
  split
  case h_1 untyped =>
    rintro fault ⟨⟩
    exact ⟨rfl, String.toList_eq_nil_iff.mp untyped⟩
  case h_2 =>
    split
    case h_1 => exact (faultless_of_meaningless rfl).blames
    case h_2 =>
      split
      case h_1 => exact (faultless_of_meaningless rfl).blames
      case h_2 => exact (faultless_ok _).blames

theorem Faultless.fault?_ne {α : Type} {outcome : Except Error α} (h : Faultless outcome)
    {fault : UsageFault} : fault? outcome ≠ some (.usage fault) :=
  fun failed => h _ (fault?_eq_some_iff.mp failed) rfl

/-- Of all parts of a notification only a type can be a usage error, if it is empty: `faults` lists
one part after another, and the others are `Faultless`. -/
theorem Notification.ofTexts_blames (uptime trapOid : String) (typed : List TypedBinding) :
    Blames (fun fault => fault = .trapArguments ∧ ∃ binding ∈ typed, binding.type = "")
      (ofTexts uptime trapOid typed) := by
  intro fault failed
  rw [← fault?_eq_some_iff, fault?_ofTexts, firstFault] at failed
  obtain ⟨_, part, rfl⟩ := List.exists_of_findSome?_eq_some failed
  rw [faults, List.mem_cons, List.mem_cons, List.mem_flatMap] at part
  rcases part with since | object | ⟨binding, mem, part⟩
  · exact absurd since.symm (Uptime.faultless_parse uptime).fault?_ne
  · exact absurd object.symm (Mib.faultless_resolve trapOid).fault?_ne
  · rw [TypedBinding.faults, List.mem_pair] at part
    rcases part with object | value
    · exact absurd object.symm (Mib.faultless_resolve binding.oid).fault?_ne
    · obtain ⟨rfl, untyped⟩ := Literal.parse_blames _ _ _ _ (fault?_eq_some_iff.mp value.symm)
      exact ⟨rfl, binding, mem, untyped⟩

/-! ## Runs -/

namespace Config

/-- What an accepted invocation may still fail with as a usage error: a request in bulk with more
non-repeaters than objects, of which a walk has one, and a notification with a binding that has no
type. -/
def MayBlame (config : Config) : UsageFault → Prop
  | .tooFewObjects nonRepeaters objects =>
    nonRepeaters = config.bulk.nonRepeaters ∧ objects < nonRepeaters.toNat ∧
      (config.command = .bulkGet ∧ (∃ oids, config.target = .objects oids ∧ objects = oids.length) ∨
        config.command = .bulkWalk ∧ objects = 1)
  | .trapArguments => config.command = .trap ∧ ∃ uptime trapOid, ∃ typed : List TypedBinding,
      config.target = .notification uptime trapOid (typed.flatMap TypedBinding.words) ∧
        ∃ binding ∈ typed, binding.type = ""
  | _ => False

/-- What a request of a command that asks once can be refused for is among what the command
`MayBlame`. -/
theorem mayBlame_of_refusal {config : Config} {request : Request} {fault : UsageFault}
    (carried : config.command = .bulkGet → config.session.version = .v2c)
    (asks : config.request? = some request)
    (refused : request.refusal? config.session.version = some fault) : config.MayBlame fault := by
  rw [request?] at asks
  split at asks
  case h_1 =>
    cases asks
    cases refused
  case h_2 =>
    cases asks
    cases refused
  case h_3 oids target command =>
    cases asks
    rw [carried command] at refused
    obtain ⟨rfl, few⟩ := Request.few_of_refusal? refused
    exact ⟨rfl, few, .inl ⟨command, oids, target, rfl⟩⟩
  case h_4 => cases asks

/-- What version 1 cannot carry passes `make` only over the later version. -/
theorem v2c_of_make {command : Command} {session : SessionSettings} {flags : Settings}
    {args : List String} {config : Config} (made : make command session flags args = .ok config)
    (needs : command = .bulkGet ∨ command = .bulkWalk ∨ command = .trap) :
    config.session.version = .v2c := by
  obtain ⟨-, same, -⟩ := make_target made
  obtain ⟨_, carried, -⟩ := bind_eq_ok made
  rw [same]
  exact v2c_of_checkVersion needs carried

/-- An accepted notification has its bindings three by three, as `words` has them. -/
theorem notification_of_make {session : SessionSettings} {flags : Settings} {args : List String}
    {config : Config} (made : make .trap session flags args = .ok config) :
    ∃ uptime trapOid, ∃ typed : List TypedBinding,
      config.target = .notification uptime trapOid (typed.flatMap TypedBinding.words) := by
  obtain ⟨_, -, made⟩ := bind_eq_ok made
  obtain ⟨⟨bound, rest⟩, -, made⟩ := bind_eq_ok made
  obtain ⟨⟨agent, target⟩, read, made⟩ := bind_eq_ok made
  cases made
  obtain ⟨_, uptime, trapOid, typed, -, target⟩ := notification_of_readTarget read
  exact ⟨uptime, trapOid, typed, target⟩

section

variable {session : Session (StateM σ)} (channel : session.channel.Faultless)
  {terminal : Terminal (StateM σ)} (printer : terminal.Faultless) (hostUptime : StateM σ UInt64)
  (reports : Nat)
include channel

theorem runTrap_confines (v2c : session.settings.version = .v2c) (uptime trapOid : String)
    (typed : List TypedBinding) :
    Confines (fun fault => fault = .trapArguments ∧ ∃ binding ∈ typed, binding.type = "")
      (runTrap session hostUptime uptime trapOid (typed.flatMap TypedBinding.words))
      fun _ => True := by
  rw [runTrap_words]
  refine (confines_pure (Notification.ofTexts_blames uptime trapOid typed)).bind fun trap _ => ?_
  refine (spares_lift fun _ => ensures_any _ _).confines.bind fun hostTicks _ => ?_
  exact confines_mk (session.notify_blames channel v2c _ _ _)

/-- A notification is blamed for a missing type, and `runTrap_confines` says for nothing else. -/
theorem runSession_trap_confines {config : Config} (command : config.command = .trap)
    (v2c : session.settings.version = .v2c) {uptime trapOid : String} {typed : List TypedBinding}
    (target : config.target = .notification uptime trapOid (typed.flatMap TypedBinding.words)) :
    Confines config.MayBlame (config.runSession session terminal hostUptime reports)
      fun _ => True := by
  have runs : config.runSession session terminal hostUptime reports = (do
      runTrap session hostUptime uptime trapOid (typed.flatMap TypedBinding.words)
      return .finished) := by
    rw [runSession, request?, target, command]
  rw [runs]
  have sends := runTrap_confines channel hostUptime v2c uptime trapOid typed
  refine (sends.mono ?_).bind fun _ _ => (spares_pure trivial).confines
  rintro _ ⟨rfl, untyped⟩
  exact ⟨command, uptime, trapOid, typed, target, untyped⟩

include printer

/-- A command that asks once is blamed for what its request is refused for. -/
theorem runSession_asking_confines {config : Config} {request : Request}
    (asks : config.request? = some request) (opened : session.settings = config.session)
    (carried : config.command = .bulkGet → config.session.version = .v2c) :
    Confines config.MayBlame (config.runSession session terminal hostUptime reports)
      fun _ => True := by
  rw [runSession, asks]
  have exchanges := (ask_confines channel request).mono fun fault refused =>
    mayBlame_of_refusal carried asks (opened ▸ refused)
  refine exchanges.bind fun bindings _ => ?_
  refine (printLines_spares printer _ bindings).confines.bind fun _ _ => ?_
  exact (spares_pure trivial).confines

/-- A walk is blamed on its options, which `make` takes from the command and the flags. -/
theorem runSession_walking_confines {config : Config} (walks : config.command ∈ walking)
    {root : Oid} (target : config.target = .subtree root)
    (opened : session.settings = config.session)
    (inBulk : config.command = .bulkWalk →
      config.walk.bulk = some config.bulk ∧ config.session.version = .v2c)
    (oneByOne : config.command ≠ .bulkWalk → config.walk.bulk = none) :
    Confines config.MayBlame (config.runSession session terminal hostUptime reports)
      fun _ => True := by
  rw [runSession_of_walking walks target]
  by_cases command : config.command = .bulkWalk
  case pos =>
    obtain ⟨bulk, v2c⟩ := inBulk command
    have carried : config.walk.CarriedOver session.settings.version := by
      rw [opened]
      exact fun _ _ => v2c
    refine (runWalk_confines channel printer config carried root reports).mono ?_
    rintro _ ⟨counts, same, many, rfl⟩
    cases bulk.symm.trans same
    exact ⟨rfl, many, .inr ⟨command, rfl⟩⟩
  case neg =>
    have never (counts : BulkCounts) : config.walk.bulk ≠ some counts := by
      rw [oneByOne command]
      exact nofun
    refine (runWalk_confines channel printer config
      (fun counts bulk => absurd bulk (never counts)) root reports).mono ?_
    rintro _ ⟨counts, bulk, -⟩
    exact absurd bulk (never counts)

end

/-- Whatever the agent does, a command whose invocation was accepted fails with no usage error but
what it `MayBlame`: its counts, if it asks in bulk, or a missing type, if it is a notification. -/
theorem runSession_blames {command : Command} {settings : SessionSettings} {output : OutputOptions}
    {strings : List String} {flags : Settings} {args : List String} {config : Config}
    (speaks : command ≠ .mibTree)
    (applied : Invocation.applyAll (Settings.applyFlags command) { output } strings = .ok flags)
    (made : make command settings flags args = .ok config) {session : Session (StateM σ)}
    (opened : session.settings = config.session) (channel : session.channel.Faultless)
    {terminal : Terminal (StateM σ)} (printer : terminal.Faultless) (hostUptime : StateM σ UInt64)
    (reports : Nat) (state : σ) (fault : UsageFault)
    (failed : ((config.runSession session terminal hostUptime reports).run.run state).1
      = .error (.usage fault)) :
    config.MayBlame fault := by
  suffices confined : Confines config.MayBlame
      (config.runSession session terminal hostUptime reports) fun _ => True from
    (confined state).1 fault failed
  -- only the command can make a walk go in bulk, so without it there are no counts
  have unset : flags.request.walk.bulk = none :=
    Invocation.applyAll_preserves (fun flags => flags.request.walk.bulk = none)
      (fun flags string h => (Settings.bulk_of_readFlags command flags none string).trans h) rfl
      applied
  obtain ⟨inBulk, otherwise⟩ := make_bulk made
  obtain ⟨rfl, rfl, objects, subtree⟩ := make_target made
  have kinds : config.command ∈ asking ∨ config.command ∈ walking ∨ config.command = .trap := by
    revert speaks
    cases config.command <;> decide
  rcases kinds with asks | walks | trap
  · obtain ⟨oids, target, -⟩ := objects asks
    obtain ⟨request, requests, -⟩ := exists_request_of_asking asks target
    refine runSession_asking_confines channel printer hostUptime reports requests opened ?_
    exact fun bulkGet => v2c_of_make made (.inl bulkGet)
  · obtain ⟨root, target, -⟩ := subtree walks
    refine runSession_walking_confines channel printer hostUptime reports walks target opened
      inBulk ?_
    exact fun other => (otherwise other).trans unset
  · have v2c := v2c_of_make made (.inr (.inr trap))
    rw [← opened] at v2c
    rw [trap] at made
    obtain ⟨uptime, trapOid, typed, target⟩ := notification_of_make made
    exact runSession_trap_confines channel hostUptime reports trap v2c target

/-- That a binding has no type shows only when its notification is put together. -/
theorem runSession_blames_untyped :
    let words := ["ifIndex.2", "i", "2", "ifIndex.2", "", "2"]
    let config : Config := ⟨.trap, some "gw", .notification "" "linkDown" words, {}, {}, {}, {}⟩
    let agent : ScriptedAgent := { peer := ⟨.v4 ⟨127, 0, 0, 1⟩, 162⟩ }
    let session := Rehearsal.session agent.peer false {}
    let result := (config.runSession session Rehearsal.terminal (pure 0) 0).run.run { agent }
    Invocation.applyAll (Settings.applyFlags .trap) {} [] = .ok {} ∧
      make .trap {} {} ("gw" :: "" :: "linkDown" :: words) = .ok config ∧
      result.1 = .error (.usage .trapArguments) ∧ config.MayBlame .trapArguments := by
  intro words config agent session result
  have applied : Invocation.applyAll (Settings.applyFlags .trap) {} [] = .ok {} := rfl
  have made : make .trap {} {} ("gw" :: "" :: "linkDown" :: words) = .ok config := by
    decide +kernel
  have failed : result.1 = .error (.usage .trapArguments) := by decide +kernel
  refine ⟨applied, made, failed, ?_⟩
  exact runSession_blames (by decide) applied made rfl
    (Rehearsal.channel_faultless agent.peer false) Rehearsal.terminal_faultless (pure 0) 0 { agent }
    _ failed

end Config

end SnmpManager
