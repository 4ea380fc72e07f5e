import SnmpManager.Proofs.Run.Observed
import SnmpManager.Proofs.Run.Questions
import SnmpManager.Proofs.Session.Lifted
import SnmpManager.Proofs.Walk.Journal
import SnmpManager.Proofs.Walk.Reports

/-!
# What a command prints

Over a terminal that takes every line, a command that asks once prints the bindings of
the answer or nothing. A walk prints the bindings it reports, whatever comes after them,
and counts them right at the end of its output (`Config.runSession_prints`).

- `Terminal.Accepts`: a terminal that takes every line.
- `Walk.reportsTo`: the reports of a walk to a reader that acts on each binding before
  it asks for the next.
- `Walk.Tells`: what a report says about the walk it leaves.
- `Config.Outcome`: how a walk that was printed came to its end.
-/

namespace SnmpManager

variable {σ : Type}

/-- A terminal that takes every line. What it does to the world around it is left open, and so are
remarks. -/
def Terminal.Accepts (terminal : Terminal (StateM σ)) : Prop :=
  ∀ line state, ((terminal.print line).run state).1 = .ok ()

/-- A terminal that takes everything and changes nothing. -/
def Terminal.screen : Terminal (StateM σ) where
  print _ := pure (.ok ())
  remark _ := pure (.ok ())

theorem Terminal.screen_accepts : (screen : Terminal (StateM σ)).Accepts :=
  fun _ _ => rfl

namespace Printed

/-- `onWorld` acts on the world alone, as `Lifts` asks. -/
theorem lifts_onWorld : @Lifts (StateM σ) (StateM (Printed σ)) _ _ fun _ => onWorld where
  pure _ := rfl
  bind _ _ := rfl

/-- What an action does to the world, it does beside the paper. -/
theorem run_onWorld {α : Type} {action : StateM σ α} {before : Printed σ} {a : α} {world : σ}
    (h : action.run before.world = (a, world)) :
    (onWorld action).run before = (a, { before with world }) := by
  show ((action.run before.world).1, { before with world := (action.run before.world).2 }) = _
  rw [h]

/-- `Printed.terminal` puts a line on paper, and then gives it to the terminal. -/
theorem print_ensures {terminal : Terminal (StateM σ)} (accepts : terminal.Accepts) (line : String)
    (before : Printed σ) :
    Ensures ((Printed.terminal terminal).print line) before fun outcome after =>
      outcome = .ok () ∧
        after = ⟨((terminal.print line).run before.world).2, before.lines ++ [line]⟩ :=
  ⟨accepts line before.world, rfl⟩

/-- The time is read off the world. -/
theorem now_ensures (session : Session (StateM σ)) (before : Printed σ) :
    Ensures (session.lift onWorld).channel.now before fun _ after =>
      after = { before with world := (session.channel.now.run before.world).2 } :=
  rfl

end Printed

/-! ## Reports to a reader -/

namespace Walk

/-- The reports of a walk over at most so many polls, to a reader that acts on each binding before
the next poll. -/
def reportsTo {m : Type → Type} [Monad m] {α : Type} (session : Session m) (act : VarBind → m α) :
    (polls : Nat) → Walk → m (List Item)
  | 0, _ => return []
  | polls + 1, walk => do
    match ← walk.next session with
    | (none, _) => return []
    | (some (.error error), walk) => return .error error :: (← reportsTo session act polls walk)
    | (some (.ok binding), walk) => do
      let _ ← act binding
      return .ok binding :: (← reportsTo session act polls walk)

/-- What a report says about the walk it leaves, if so many bindings were found before. -/
def Tells (count : Nat) (walk : Walk) : Option Item → Prop
  | none => walk.found = count
  | some (.ok _) => walk.found = count + 1
  | some (.error _) => walk.Ended

variable {count : Nat} {walk : Walk}

theorem tells_drain (h : walk.found = count) : Tells count walk.drain.2 walk.drain.1 := by
  rw [drain]
  split
  case h_1 => exact h
  case h_2 binding rest filled =>
    dsimp only
    split
    case h_1 => exact congrArg (· + 1) h
    case h_2 => exact h
    case h_3 => exact ⟨rfl, rfl⟩

/-- A binding that `absorb` reports is counted; an error ends the walk. -/
theorem tells_absorb (h : walk.found = count) (outcome : Except Error Response) :
    Tells count (walk.absorb outcome).2 (walk.absorb outcome).1 := by
  have about_root (response : Response) :
      Tells count (walk.absorbRoot response).2 (walk.absorbRoot response).1 := by
    rw [absorbRoot]
    split
    case h_1 => exact ⟨rfl, rfl⟩
    case h_2 => exact h
    case h_3 => exact congrArg (· + 1) h
  cases outcome with
  | error e => exact ⟨rfl, rfl⟩
  | ok response =>
    rw [absorb]
    split
    case h_1 =>
      rw [absorbBatch]
      split
      case isTrue => exact ⟨rfl, rfl⟩
      case isFalse =>
        split
        case isTrue => exact h
        case isFalse => exact h
    case h_2 => exact about_root response

/-- The step lemma: `next` counts the binding it reports, and it is the last if it reports an
error. -/
theorem next_tells (session : Session (StateM σ)) (h : walk.found = count) (state : σ) :
    Ensures (walk.next session) state fun result _ => Tells count result.2 result.1 := by
  have preserved : Preserved session.execute fun item later _ => Tells count later item :=
    { drain := tells_drain
      absorb := fun h _ _ => ensures_mono (ensures_any _ _) fun outcome _ _ =>
        tells_absorb h outcome }
  exact preserved.next h

/-- A walk that is `Ended` has no more reports for a reader. -/
theorem reportsTo_of_ended {α : Type} (session : Session (StateM σ)) (act : VarBind → StateM σ α)
    (ended : walk.Ended) (polls : Nat) (state : σ) :
    ((reportsTo session act polls walk).run state).1 = [] := by
  cases polls with
  | zero => rfl
  | succ polls =>
    have polled : (walk.next session).run state = ((none, walk), state) := by
      rw [next, nextWithin_eq_nextBy]
      exact run_nextBy_of_ended _ ended _ state
    rw [reportsTo, run_bind_of polled]
    rfl

end Walk

/-! ## Runs -/

/-- An answer with one binding. -/
def Reply.ofBinding (binding : VarBind) : Reply :=
  .answer (Message.encode ⟨.v2c, [], ⟨.response, 0, 0, 0, [binding]⟩⟩)

/-- An agent that tells the name of a system, and then where it is. -/
def ScriptedAgent.named : ScriptedAgent where
  peer := ⟨.v4 ⟨127, 0, 0, 1⟩, 161⟩
  isStream := true
  replies := [.ofBinding ⟨⟨[1, 3, 6, 1, 2, 1, 1, 5, 0]⟩, .octetString [0x67, 0x77]⟩,
    .ofBinding ⟨⟨[1, 3, 6, 1, 2, 1, 1, 6, 0]⟩, .octetString []⟩]

namespace Config

variable {terminal : Terminal (StateM σ)} {options : OutputOptions}

/-- By induction on the bindings: `printLines` prints them in order, one line for each. -/
theorem printLines_prints (accepts : terminal.Accepts) (bindings : List VarBind)
    (before : Printed σ) :
    Ensures (printLines (Printed.terminal terminal) options bindings).run before
      fun outcome after => outcome = .ok () ∧
        after.lines = before.lines ++ bindings.map (VarBind.line options) := by
  induction bindings generalizing before with
  | nil => exact ⟨rfl, (List.append_nil _).symm⟩
  | cons binding rest ih =>
    rw [printLines]
    refine ensures_run_bind (ensures_mono (Printed.print_ensures accepts _ before) ?_)
    rintro _ between ⟨rfl, rfl⟩
    refine ensures_mono (ih _) ?_
    rintro outcome after ⟨done, lines⟩
    exact ⟨done, by rw [lines, List.append_assoc]; rfl⟩

/-- How a walk that was printed came to its end, if so many bindings were found before: with an
error, after as many reports as it was allowed, or at the end of what there is. -/
def Outcome (count reports : Nat) (found : List VarBind) (items : List Walk.Item) :
    Except Error (Option Walk) → Prop
  | .error e => items = found.map .ok ++ [.error e]
  | .ok none => items = found.map .ok ∧ found.length = reports
  | .ok (some walk) =>
    items = found.map .ok ∧ found.length < reports ∧ walk.found = count + found.length

/-- One binding more in front of an `Outcome`, which was found first. -/
theorem Outcome.cons {count reports : Nat} {found : List VarBind} {items : List Walk.Item}
    {outcome : Except Error (Option Walk)} (h : Outcome (count + 1) reports found items outcome)
    (binding : VarBind) :
    Outcome count (reports + 1) (binding :: found) (.ok binding :: items) outcome := by
  match outcome, h with
  | .error e, h => exact congrArg (List.cons _) h
  | .ok none, ⟨same, all⟩ => exact ⟨congrArg (List.cons _) same, congrArg (· + 1) all⟩
  | .ok (some walk), ⟨same, few, counts⟩ =>
    refine ⟨congrArg (List.cons _) same, Nat.succ_lt_succ few, ?_⟩
    rw [counts, List.length_cons, Nat.add_assoc, Nat.add_comm 1]

/-- By induction on the reports, with `next_tells` for each: a walk is printed as `reportsTo` has it
for a reader that prints each binding. -/
theorem printWalk_prints (accepts : terminal.Accepts) (session : Session (StateM σ))
    (reports : Nat) {count : Nat} {walk : Walk} (counts : walk.found = count)
    (before : Printed σ) :
    Ensures (printWalk (session.lift Printed.onWorld) (Printed.terminal terminal) options reports
      walk).run before fun outcome after => ∃ found,
        after.lines = before.lines ++ found.map (VarBind.line options) ∧
        Outcome count reports found
          ((Walk.reportsTo session (fun binding => terminal.print (binding.line options)) reports
            walk).run before.world).1 outcome := by
  induction reports generalizing walk count before with
  | zero => exact ⟨[], (List.append_nil _).symm, rfl, rfl⟩
  | succ reports ih =>
    obtain ⟨⟨⟨report, later⟩, world⟩, polled⟩ :
      ∃ result, (walk.next session).run before.world = result := ⟨_, rfl⟩
    have tells : Walk.Tells count later report := by
      have h := Walk.next_tells session counts before.world
      rwa [Ensures, polled] at h
    have watched : (walk.next (session.lift Printed.onWorld)).run before
        = ((report, later), { before with world }) := by
      rw [Printed.lifts_onWorld.next session walk]
      exact Printed.run_onWorld polled
    rw [printWalk]
    refine ensures_lift_bind ?_
    rw [Ensures, watched, Walk.reportsTo, run_bind_of polled]
    rcases report with _ | error | binding
    · exact ⟨[], (List.append_nil _).symm, rfl, Nat.succ_pos _, tells⟩
    · -- the error is the last report, to any reader
      refine ⟨[], (List.append_nil _).symm, ?_⟩
      show .error error :: ((Walk.reportsTo session _ reports later).run world).1 = _
      rw [Walk.reportsTo_of_ended session _ tells]
      rfl
    · refine ensures_run_bind (ensures_mono (Printed.print_ensures accepts _ _) ?_)
      rintro _ between ⟨rfl, rfl⟩
      refine ensures_mono (ih tells _) ?_
      rintro outcome after ⟨found, lines, ends⟩
      refine ⟨binding :: found, ?_, ends.cons binding⟩
      rw [lines, List.append_assoc]
      rfl

/-- The lines at the end of a walk: how many bindings it found, if it came to its end and that was
asked for. -/
def closing (options : OutputOptions) (reports : Nat) (found : List VarBind)
    (failure : Option Error) : List String :=
  if failure = none ∧ found.length < reports ∧ options.summary then [summaryLine found.length]
  else []

/-- After a walk its count is printed, if that was asked for. The time it took is a remark, and no
part of the output. -/
theorem finish_prints (accepts : terminal.Accepts) (options : OutputOptions) (count : Nat)
    (time : String) (before : Printed σ) :
    Ensures (do
        if options.summary then
          ExceptT.mk ((Printed.terminal terminal).print (summaryLine count))
        if options.time then
          ExceptT.mk ((Printed.terminal terminal).remark time)
        return .finished : ExceptT Error (StateM (Printed σ)) Completion).run before
      fun outcome after =>
        after.lines = before.lines ++ (if options.summary then [summaryLine count] else []) ∧
        (options.time = false → outcome = .ok .finished) := by
  -- remarks are not on paper
  have remarked (before : Printed σ) :
      Ensures ((Printed.terminal terminal).remark time) before
        fun _ after => after.lines = before.lines := rfl
  have remarks (before : Printed σ) :
      Ensures (do
          if options.time then
            ExceptT.mk ((Printed.terminal terminal).remark time)
          return .finished : ExceptT Error (StateM (Printed σ)) Completion).run before
        fun outcome after =>
          after.lines = before.lines ∧ (options.time = false → outcome = .ok .finished) := by
    refine ensures_optional (fun asked => ?_) fun _ => ⟨rfl, fun _ => rfl⟩
    rw [asked]
    refine ensures_run_bind (ensures_mono (remarked before) ?_)
    rintro (e | _) after same
    · exact ⟨same, nofun⟩
    · exact ⟨same, nofun⟩
  refine ensures_optional (fun asked => ?_) fun left => ?_
  · rw [if_pos asked]
    refine ensures_run_bind (ensures_mono (Printed.print_ensures accepts _ _) ?_)
    rintro _ between ⟨rfl, rfl⟩
    exact remarks _
  · rw [if_neg left, List.append_nil]
    exact remarks before

/-- `runWalk` prints a walk binding by binding, and the count only after all of them. -/
theorem runWalk_prints (accepts : terminal.Accepts) (session : Session (StateM σ))
    (config : Config) (root : Oid) (reports : Nat) (before : Printed σ) :
    Ensures (runWalk (session.lift Printed.onWorld) (Printed.terminal terminal) config root
      reports).run before fun outcome after => ∃ (found : List VarBind) (failure : Option Error),
        ((Walk.reportsTo session (fun binding => terminal.print (binding.line config.output))
          reports (Walk.start root config.walk)).run (session.channel.now.run before.world).2).1
            = found.map .ok ++ failure.toList.map .error ∧
        after.lines = before.lines ++ (found.map (VarBind.line config.output) ++
          closing config.output reports found failure) ∧
        (∀ e, failure = some e → outcome = .error e) ∧
        (failure = none → found.length < reports → config.output.time = false →
          outcome = .ok .finished) ∧
        (failure = none → ¬ found.length < reports → outcome = .ok .cutShort) := by
  rw [runWalk]
  refine ensures_lift_bind (ensures_mono (Printed.now_ensures session before) ?_)
  rintro start _ rfl
  refine ensures_run_bind (ensures_mono (printWalk_prints accepts session reports rfl _) ?_)
  rintro (e | _ | walk) between ⟨found, lines, ends⟩
  -- the walk failed, was cut short, or came to its end
  · have failed := Option.some_ne_none e
    refine ⟨found, some e, ends, ?_, ?_, (absurd · failed), (absurd · failed)⟩
    · rw [closing, if_neg (fun h => failed h.1), List.append_nil]
      exact lines
    · rintro _ ⟨⟩
      rfl
  · obtain ⟨same, all⟩ := ends
    have cut : ¬ found.length < reports := all ▸ Nat.lt_irrefl _
    refine ⟨found, none, ?_, ?_, fun _ failed => absurd failed (Option.some_ne_none _).symm, ?_,
      fun _ _ => rfl⟩
    · rw [Option.toList_none, List.map_nil, List.append_nil, same]
    · rw [closing, if_neg (fun h => cut h.2.1), List.append_nil]
      exact lines
    · exact fun _ few => absurd few cut
  · obtain ⟨same, few, counts⟩ := ends
    have counts : walk.found = found.length := counts.trans (Nat.zero_add _)
    refine ensures_lift_bind (ensures_mono (Printed.now_ensures session between) ?_)
    rintro finish _ rfl
    refine ensures_mono (finish_prints accepts config.output walk.found _ _) ?_
    rintro outcome after ⟨rest, done⟩
    refine ⟨found, none, ?_, ?_, fun _ failed => absurd failed (Option.some_ne_none _).symm,
      fun _ _ => done, fun _ cut => absurd few cut⟩
    · rw [Option.toList_none, List.map_nil, List.append_nil, same]
    · rw [rest, lines, counts, List.append_assoc, closing]
      simp only [few, true_and]

/-- The lines of some bindings and the `closing` ones of a walk, as text. -/
theorem join_closing (options : OutputOptions) (reports : Nat) (found : List VarBind)
    (failure : Option Error) :
    String.join (found.map (VarBind.line options) ++ closing options reports found failure)
      = printBindings options found ++
        if failure = none ∧ found.length < reports ∧ options.summary then summaryLine found.length
        else "" := by
  rw [String.join_append, closing, printBindings]
  split
  case isTrue => rw [String.join_cons, String.join_nil, String.append_empty]
  case isFalse => rw [String.join_nil]

/-- `ask` prints nothing. -/
theorem ask_ensures (session : Session (StateM σ)) (request : Request) (before : Printed σ) :
    Ensures (ask (session.lift Printed.onWorld) request).run before fun outcome after =>
      outcome = ((session.execute request).run before.world).1 >>= Response.check ∧
        after.lines = before.lines := by
  obtain ⟨⟨answer, world⟩, executed⟩ :
    ∃ result, (session.execute request).run before.world = result := ⟨_, rfl⟩
  have exchanged : ((session.lift Printed.onWorld).execute request).run before
      = (answer, { before with world }) := by
    rw [Printed.lifts_onWorld.execute session request]
    exact Printed.run_onWorld executed
  rw [ask, executed]
  refine ensures_run_bind ?_
  show Ensures ((session.lift Printed.onWorld).execute request) before _
  rw [Ensures, exchanged]
  cases answer with
  | error e => exact ⟨rfl, rfl⟩
  | ok response => exact ⟨rfl, rfl⟩

/-- A command that asks once prints all of the answer, or nothing if `Response.check` or the
exchange fails. -/
theorem runSession_asking_prints (accepts : terminal.Accepts) (session : Session (StateM σ))
    {config : Config} {request : Request} (asks : config.request? = some request)
    (hostUptime : StateM (Printed σ) UInt64) (reports : Nat) (before : Printed σ) :
    Ensures (config.runSession (session.lift Printed.onWorld) (Printed.terminal terminal)
      hostUptime reports).run before fun outcome after =>
        match ((session.execute request).run before.world).1 >>= Response.check with
        | .error e => outcome = .error e ∧ after.lines = before.lines
        | .ok bindings => outcome = .ok .finished ∧
          after.lines = before.lines ++ bindings.map (VarBind.line config.output) := by
  have runs : config.runSession (session.lift Printed.onWorld) (Printed.terminal terminal)
      hostUptime reports = (do
        let bindings ← ask (session.lift Printed.onWorld) request
        printLines (Printed.terminal terminal) config.output bindings
        return .finished) := by
    rw [runSession, asks]
  rw [runs]
  refine ensures_run_bind (ensures_mono (ask_ensures session request before) ?_)
  rintro outcome between ⟨answered, unprinted⟩
  rw [← answered]
  cases outcome with
  | error e => exact ⟨rfl, unprinted⟩
  | ok bindings =>
    refine ensures_run_bind (ensures_mono (printLines_prints accepts bindings between) ?_)
    rintro _ after ⟨rfl, lines⟩
    exact ⟨rfl, lines.trans (by rw [unprinted])⟩

/-- What a run over a terminal that `Accepts` every line prints. A command that asks once prints all
bindings of the answer, in order, or nothing if it fails. A walk prints all bindings that it
reports, in order, also where an error comes after them; if it comes to its end, and so makes fewer
reports than it was allowed, the number of these bindings may follow. -/
theorem runSession_prints {command : Command} {settings : SessionSettings} {flags : Settings}
    {args : List String} {config : Config} (made : make command settings flags args = .ok config)
    (session : Session (StateM σ)) {terminal : Terminal (StateM σ)} (accepts : terminal.Accepts)
    (hostUptime : StateM σ UInt64) (reports : Nat) (world : σ) :
    let result := (config.runSession (session.lift Printed.onWorld) (Printed.terminal terminal)
      (Printed.onWorld hostUptime) reports).run.run { world }
    let output := String.join result.2.lines
    (command ∈ asking → ∃ request, config.request? = some request ∧
      match ((session.execute request).run world).1 with
      | .error e => result.1 = .error e ∧ output = ""
      | .ok response =>
        match response.error? with
        | some e => result.1 = .error e ∧ output = ""
        | none => result.1 = .ok .finished ∧
          output = printBindings config.output response.bindings) ∧
    (command ∈ walking → ∃ root, config.target = .subtree root ∧
      ∃ (found : List VarBind) (failure : Option Error),
        ((Walk.reportsTo session (fun binding => terminal.print (binding.line config.output))
          reports (Walk.start root config.walk)).run (session.channel.now.run world).2).1
            = found.map .ok ++ failure.toList.map .error ∧
        output = printBindings config.output found ++
          (if failure = none ∧ found.length < reports ∧ config.output.summary
            then summaryLine found.length else "") ∧
        (∀ e, failure = some e → result.1 = .error e) ∧
        (failure = none → found.length < reports → config.output.time = false →
          result.1 = .ok .finished) ∧
        (failure = none → ¬ found.length < reports → result.1 = .ok .cutShort)) := by
  intro result output
  obtain ⟨rfl, -, once, walk⟩ := make_target made
  refine ⟨fun asks => ?_, fun walks => ?_⟩
  · obtain ⟨oids, target, -⟩ := once asks
    obtain ⟨request, requests, -⟩ := exists_request_of_asking asks target
    refine ⟨request, requests, ?_⟩
    have prints := runSession_asking_prints accepts session requests (Printed.onWorld hostUptime)
      reports { world }
    -- an exchange that fails and an error in the answer end the command alike
    cases answer : ((session.execute request).run world).1 with
    | error e =>
      rw [Ensures, answer] at prints
      obtain ⟨failed, lines⟩ := prints
      exact ⟨failed, congrArg String.join lines⟩
    | ok response =>
      have checked : (Except.ok response >>= Response.check) = response.check := rfl
      rw [Ensures, answer, checked, Response.check] at prints
      dsimp only
      cases refused : response.error? with
      | some e =>
        rw [refused] at prints
        obtain ⟨failed, lines⟩ := prints
        exact ⟨failed, congrArg String.join lines⟩
      | none =>
        rw [refused] at prints
        obtain ⟨finished, lines⟩ := prints
        exact ⟨finished, congrArg String.join lines⟩
  · obtain ⟨root, target, -⟩ := walk walks
    have prints := runWalk_prints accepts session config root reports { world }
    rw [← runSession_of_walking walks target _ _ (Printed.onWorld hostUptime)] at prints
    obtain ⟨found, failure, items, lines, ends⟩ := prints
    exact ⟨root, target, found, failure, items,
      (congrArg String.join lines).trans (join_closing config.output reports found failure), ends⟩

/-- The name of a system is found under its object, which ends before the next answer. -/
theorem runSession_prints_name :
    let agent := ScriptedAgent.named
    let session := ScriptedAgent.session agent.peer agent.isStream {}
    let config : Config :=
      { plain [] with
        command := .walk
        target := .subtree ⟨[1, 3, 6, 1, 2, 1, 1, 5]⟩
        output := { summary := true } }
    make .walk {} { output := { summary := true } } ["gw", "sysName"] = .ok config ∧
      .walk ∈ walking ∧ (Terminal.screen : Terminal (StateM ScriptedAgent)).Accepts ∧
      String.join ((config.runSession (session.lift Printed.onWorld) (Printed.terminal .screen)
        (Printed.onWorld (pure 0)) 3).run.run { world := agent }).2.lines
          = "sysName.0 = STRING: \"gw\"\nVariables found: 1\n" := by
  intro agent session config
  have made : make .walk {} { output := { summary := true } } ["gw", "sysName"] = .ok config := by
    decide +kernel
  refine ⟨made, by decide, Terminal.screen_accepts, ?_⟩
  obtain ⟨root, target, found, failure, items, output, -⟩ :=
    (runSession_prints made session Terminal.screen_accepts (pure 0) 3 agent).2 (by decide)
  cases target
  have items : ([.ok ⟨⟨[1, 3, 6, 1, 2, 1, 1, 5, 0]⟩, .octetString [0x67, 0x77]⟩] : List Walk.Item)
      = found.map .ok ++ failure.toList.map .error := Eq.trans (by decide +kernel) items
  cases failure with
  | none =>
    rw [Option.toList_none, List.map_nil, List.append_nil] at items
    obtain ⟨binding, rfl, same⟩ := List.map_eq_singleton_iff.mp items.symm
    obtain rfl := Except.ok.inj same
    exact output.trans (by decide +kernel)
  | some e =>
    have last := congrArg List.getLast? items
    rw [Option.toList_some, List.map_singleton, List.getLast?_concat] at last
    cases last

end Config

end SnmpManager
