import SnmpManager.Proofs.Session.Ensures
import SnmpManager.Proofs.Walk.Polls

/-!
# Walks that keep a journal

What a walk asks and what it reports are seen by writing both down, in order,
beside the state of an arbitrary channel. The journal changes nothing
(`Walk.erases_polls`), and what the two halves of a step preserve holds of a walk
and its journal after any number of polls (`Walk.Kept.polls`).

- `Walk.Event`: a round trip or a report.
- `Walk.polls`: so many polls, whether or not they report anything.
- `Walk.pollNoted`: a poll that writes down what happens in it.
- `Walk.Kept`: a fact about walks and journals that a step preserves.
- `Walk.Ended`: a walk that asks and reports nothing from now on.
-/

namespace SnmpManager

namespace Walk

/-- So many polls, and what each of them reports. -/
def polls {m : Type → Type} [Monad m] (poll : Walk → m (Option Item × Walk)) :
    (count : Nat) → Walk → m (List (Option Item) × Walk)
  | 0, walk => return ([], walk)
  | count + 1, walk => do
    let (report, walk) ← poll walk
    let (reports, walk) ← polls poll count walk
    return (report :: reports, walk)

/-! ## Journals -/

/-- What happens on a walk. -/
inductive Event where
  | asked (request : Request) (outcome : Except Error Response)
  | reported (item : Item)

/-- The state of a channel, and what happened on a walk, in order. -/
structure Journal (σ : Type) where
  world : σ
  events : List Event := []

/-- A report, if there is one. -/
def told (report : Option Item) : List Event :=
  report.toList.map .reported

variable {σ : Type} (session : Session (StateM σ))

/-- Make a round trip and write it down. -/
def askNoted (request : Request) : StateM (Journal σ) (Except Error Response) :=
  fun journal =>
    let (outcome, world) := (session.execute request).run journal.world
    (outcome, { world, events := journal.events ++ [.asked request outcome] })

/-- `Walk.next`, with its round trips and its report written down. -/
def pollNoted (walk : Walk) : StateM (Journal σ) (Option Item × Walk) := do
  let (report, walk) ← nextBy (askNoted session) walk.phase.requests walk
  modify fun journal => { journal with events := journal.events ++ told report }
  return (report, walk)

/-- A round trip is one event. -/
theorem askNoted_ensures (request : Request) (journal : Journal σ) :
    Ensures (askNoted session request) journal fun outcome later =>
      outcome = ((session.execute request).run journal.world).1 ∧
        later.events = journal.events ++ [.asked request outcome] :=
  ⟨rfl, rfl⟩

/-! ## The journal changes nothing -/

/-- An action with a journal does what another does without. -/
def Erases {α : Type} (noted : StateM (Journal σ) α) (plain : StateM σ α) : Prop :=
  ∀ journal, ((noted.run journal).1, (noted.run journal).2.world) = plain.run journal.world

theorem erases_pure {α : Type} (a : α) :
    Erases (pure a : StateM (Journal σ) α) (pure a) :=
  fun _ => rfl

/-- Actions one after another, each of which `Erases` to one without a journal. -/
theorem Erases.bind {α β : Type} {noted : StateM (Journal σ) α} {plain : StateM σ α}
    {next : α → StateM (Journal σ) β} {plainNext : α → StateM σ β}
    (first : Erases noted plain) (second : ∀ a, Erases (next a) (plainNext a)) :
    Erases (noted >>= next) (plain >>= plainNext) := by
  intro journal
  rw [run_bind_of (first journal).symm]
  exact second _ _

/-- By induction on the fuel: `nextBy` with a journal is the poll without. -/
theorem erases_nextBy (fuel : Nat) (walk : Walk) :
    Erases (nextBy (askNoted session) fuel walk) (nextWithin session fuel walk) := by
  rw [nextWithin_eq_nextBy]
  induction fuel generalizing walk with
  | zero => exact erases_pure _
  | succ fuel ih =>
    rw [nextBy, nextBy]
    split
    case h_1 => exact erases_pure _
    case h_2 =>
      split
      case h_1 => exact erases_pure _
      case h_2 request _ =>
        have asked : Erases (askNoted session request) (session.execute request) := fun _ => rfl
        refine asked.bind fun outcome => ?_
        split
        case h_1 => exact erases_pure _
        case h_2 => exact ih _

theorem erases_pollNoted (walk : Walk) : Erases (pollNoted session walk) (next session walk) :=
  erases_nextBy session walk.phase.requests walk

/-- Polls that are written down are the `polls` of the walk. -/
theorem erases_polls (count : Nat) (walk : Walk) :
    Erases (polls (pollNoted session) count walk) (polls (next session) count walk) := by
  induction count generalizing walk with
  | zero => exact erases_pure _
  | succ count ih =>
    rw [polls, polls]
    exact (erases_pollNoted session walk).bind fun _ => (ih _).bind fun _ => erases_pure _

/-! ## What a step preserves -/

/-- A fact about a walk and its journal that is preserved by judging a binding, and by a round trip
of the session. -/
structure Kept (Inv : Walk → List Event → Prop) : Prop where
  drain {walk : Walk} {events : List Event} (h : Inv walk events) :
    Inv walk.drain.2 (events ++ told walk.drain.1)
  absorb {walk : Walk} {events : List Event} {request : Request}
    {outcome : Except Error Response} (h : Inv walk events) (empty : walk.buffer = [])
    (asks : walk.request? = some request)
    (answered : ∃ world, ((session.execute request).run world).1 = outcome) :
    Inv (walk.absorb outcome).2 (events ++ .asked request outcome :: told (walk.absorb outcome).1)

variable {session} {Inv : Walk → List Event → Prop}

/-- What is `Kept` is `Preserved` by a step, with what is reported counted as written down. -/
theorem Kept.preserved (kept : Kept session Inv) :
    Preserved (askNoted session) fun report walk journal =>
      Inv walk (journal.events ++ told report) where
  drain {walk journal} h := by
    rw [told, Option.toList_none, List.map_nil, List.append_nil] at h
    exact kept.drain h
  absorb {walk journal request} h empty asks := by
    rw [told, Option.toList_none, List.map_nil, List.append_nil] at h
    refine ensures_mono (askNoted_ensures session request journal) ?_
    rintro _ later ⟨rfl, noted⟩
    rw [noted, List.append_assoc]
    exact kept.absorb h empty asks ⟨journal.world, rfl⟩

theorem Kept.nextBy (kept : Kept session Inv) (fuel : Nat) {walk : Walk} {journal : Journal σ}
    (h : Inv walk journal.events) :
    Ensures (nextBy (askNoted session) fuel walk) journal fun result later =>
      Inv result.2 (later.events ++ told result.1) := by
  refine kept.preserved.nextBy fuel ?_
  rw [told, Option.toList_none, List.map_nil, List.append_nil]
  exact h

/-- What is `Kept` holds after a poll, whose report is written down at its end. -/
theorem Kept.pollNoted (kept : Kept session Inv) {walk : Walk} {journal : Journal σ}
    (h : Inv walk journal.events) :
    Ensures (Walk.pollNoted session walk) journal fun result later =>
      Inv result.2 later.events :=
  kept.nextBy walk.phase.requests h

/-- The run lemma: what is `Kept` by a step, any number of polls keep. -/
theorem Kept.polls (kept : Kept session Inv) (count : Nat) {walk : Walk} {journal : Journal σ}
    (h : Inv walk journal.events) :
    Ensures (Walk.polls (Walk.pollNoted session) count walk) journal fun result later =>
      Inv result.2 later.events := by
  induction count generalizing walk journal with
  | zero => exact h
  | succ count ih =>
    rw [Walk.polls]
    refine ensures_bind (ensures_mono (kept.pollNoted h) fun result later kept => ?_)
    exact ensures_bind (ih kept)

/-! ## The reports in a journal -/

/-- The reports among some events. -/
def reportedIn (events : List Event) : List Item :=
  events.filterMap fun
    | .asked .. => none
    | .reported item => some item

@[simp] theorem reportedIn_append (first second : List Event) :
    reportedIn (first ++ second) = reportedIn first ++ reportedIn second :=
  List.filterMap_append

@[simp] theorem reportedIn_asked (request : Request) (outcome : Except Error Response)
    (events : List Event) : reportedIn (.asked request outcome :: events) = reportedIn events :=
  rfl

@[simp] theorem reportedIn_reported (item : Item) (events : List Event) :
    reportedIn (.reported item :: events) = item :: reportedIn events :=
  rfl

@[simp] theorem reportedIn_told (report : Option Item) :
    reportedIn (told report) = report.toList := by
  cases report <;> rfl

variable (session)

/-- By induction on the fuel: up to its end `nextBy` only asks. -/
theorem nextBy_reports (fuel : Nat) (walk : Walk) (journal : Journal σ) :
    Ensures (nextBy (askNoted session) fuel walk) journal fun _ later =>
      reportedIn later.events = reportedIn journal.events := by
  induction fuel generalizing walk journal with
  | zero => exact rfl
  | succ fuel ih =>
    rw [nextBy]
    split
    case h_1 => exact rfl
    case h_2 =>
      split
      case h_1 => exact rfl
      case h_2 request asks =>
        refine ensures_bind (ensures_mono (askNoted_ensures session request journal) ?_)
        rintro outcome later ⟨-, noted⟩
        have same : reportedIn later.events = reportedIn journal.events := by
          rw [noted, reportedIn_append]
          exact List.append_nil _
        split
        case h_1 => exact same
        case h_2 after _ => exact ensures_mono (ih after later) fun _ _ h => h.trans same

theorem pollNoted_reports (walk : Walk) (journal : Journal σ) :
    Ensures (pollNoted session walk) journal fun result later =>
      reportedIn later.events = reportedIn journal.events ++ result.1.toList := by
  refine ensures_bind (ensures_mono (nextBy_reports session walk.phase.requests walk journal) ?_)
  rintro ⟨report, after⟩ later same
  show reportedIn (later.events ++ told report) = _ ++ report.toList
  rw [reportedIn_append, reportedIn_told, same]

/-- What the polls report is what `reportedIn` finds in the journal. -/
theorem polls_reports (count : Nat) (walk : Walk) (journal : Journal σ) :
    Ensures (polls (pollNoted session) count walk) journal fun result later =>
      reportedIn later.events = reportedIn journal.events ++ result.1.reduceOption := by
  induction count generalizing walk journal with
  | zero => exact (List.append_nil _).symm
  | succ count ih =>
    refine ensures_bind (ensures_mono (pollNoted_reports session walk journal) ?_)
    rintro ⟨report, after⟩ later first
    refine ensures_bind (ensures_mono (ih after later) ?_)
    rintro ⟨reports, _⟩ last others
    show reportedIn last.events = _ ++ (report :: reports).reduceOption
    rw [others, first, List.append_assoc]
    cases report <;> rfl

/-- Each poll has its place in what `polls` gives, whether or not it reports anything. -/
theorem polls_length {τ : Type} (poll : Walk → StateM τ (Option Item × Walk)) (count : Nat)
    (walk : Walk) (state : τ) :
    Ensures (polls poll count walk) state fun result _ => result.1.length = count := by
  induction count generalizing walk state with
  | zero => exact rfl
  | succ count ih =>
    refine ensures_bind (ensures_mono (ensures_any _ state) fun first later _ => ?_)
    exact ensures_bind (ensures_mono (ih first.2 later) fun _ _ same => congrArg (· + 1) same)

/-! ## The end of a walk -/

/-- A walk that is over. -/
def Ended (walk : Walk) : Prop :=
  walk.buffer = [] ∧ walk.phase = .done

/-- A walk that cannot make a request any more is over. -/
theorem ended_of_requests_eq_zero {walk : Walk} (h : walk.requests = 0) : walk.Ended := by
  have empty : walk.buffer = [] := by
    refine Decidable.byContradiction fun filled => ?_
    rw [requests, if_neg filled] at h
    cases h
  refine ⟨empty, ?_⟩
  rw [requests, if_pos empty] at h
  cases phase : walk.phase with
  | done => rfl
  | seed | iterate | fallback =>
    rw [phase] at h
    cases h

theorem ended_of_request?_eq_none {walk : Walk} (empty : walk.buffer = [])
    (h : walk.request? = none) : walk.Ended := by
  refine ⟨empty, ?_⟩
  cases phase : walk.phase with
  | done => rfl
  | iterate =>
    simp only [request?, phase] at h
    split at h <;> cases h
  | seed | fallback =>
    simp only [request?, phase] at h
    cases h

/-- A poll with nothing to report is the end: the walk is `Ended`. -/
theorem nextBy_none {τ : Type} (ask : Request → StateM τ (Except Error Response)) {fuel : Nat}
    {walk : Walk} (enough : walk.requests ≤ fuel) (state : τ) :
    Ensures (nextBy ask fuel walk) state fun result _ => result.1 = none → result.2.Ended := by
  induction fuel generalizing walk state with
  | zero =>
    have ended := ended_of_requests_eq_zero (Nat.le_zero.mp enough)
    rw [nextBy, drain_of_buffer_eq_nil ended.1]
    exact fun _ => ended
  | succ fuel ih =>
    rw [nextBy]
    split
    case h_1 => exact fun none => absurd none (Option.some_ne_none _)
    case h_2 after drained =>
      obtain ⟨empty, fewer⟩ := drain_quiet drained
      split
      case h_1 asks => exact fun _ => ended_of_request?_eq_none empty asks
      case h_2 request asks =>
        refine ensures_bind (ensures_mono (ensures_any _ state) fun outcome later _ => ?_)
        split
        case h_1 => exact fun none => absurd none (Option.some_ne_none _)
        case h_2 final absorbed =>
          obtain ⟨-, less⟩ := absorb_quiet empty asks absorbed
          exact ih (by omega) later

/-- A walk that is `Ended` stays so, without a round trip. -/
theorem run_nextBy_of_ended {τ : Type} (ask : Request → StateM τ (Except Error Response))
    {walk : Walk} (ended : walk.Ended) (fuel : Nat) (state : τ) :
    (nextBy ask fuel walk).run state = ((none, walk), state) := by
  have asks : walk.request? = none := by rw [request?, ended.2]
  cases fuel with
  | zero =>
    rw [nextBy, drain_of_buffer_eq_nil ended.1]
    rfl
  | succ fuel =>
    rw [nextBy, drain_of_buffer_eq_nil ended.1]
    simp only [asks]
    rfl

theorem run_polls_of_ended {walk : Walk} (ended : walk.Ended) (count : Nat) (journal : Journal σ) :
    (polls (pollNoted session) count walk).run journal
      = ((List.replicate count none, walk), journal) := by
  induction count with
  | zero => rfl
  | succ count ih =>
    have first : (pollNoted session walk).run journal = ((none, walk), journal) := by
      rw [pollNoted, run_bind_of (run_nextBy_of_ended _ ended _ journal)]
      show ((none, walk), { journal with events := journal.events ++ [] }) = _
      rw [List.append_nil]
    rw [polls, run_bind_of first]
    dsimp only
    rw [run_bind_of ih]
    rfl

/-- Some `polls` and then some more. -/
theorem run_polls_add {τ : Type} (poll : Walk → StateM τ (Option Item × Walk))
    {walk between : Walk} {state later : τ} {reports : List (Option Item)} (first more : Nat)
    (h : (polls poll first walk).run state = ((reports, between), later)) :
    (polls poll (first + more) walk).run state =
      let result := (polls poll more between).run later
      ((reports ++ result.1.1, result.1.2), result.2) := by
  induction first generalizing walk state reports with
  | zero =>
    cases h
    rw [Nat.zero_add]
    rfl
  | succ first ih =>
    obtain ⟨⟨⟨report, second⟩, state'⟩, polled⟩ : ∃ result, (poll walk).run state = result :=
      ⟨_, rfl⟩
    obtain ⟨⟨⟨others, last⟩, state''⟩, rest⟩ :
      ∃ result, (polls poll first second).run state' = result := ⟨_, rfl⟩
    rw [polls, run_bind_of polled] at h
    dsimp only at h
    rw [run_bind_of rest] at h
    cases h
    rw [Nat.succ_add, polls, run_bind_of polled]
    dsimp only
    rw [run_bind_of (ih rest)]
    rfl

end Walk

end SnmpManager
