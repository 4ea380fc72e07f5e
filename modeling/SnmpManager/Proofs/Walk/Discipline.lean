import Mathlib.Data.List.ReduceOption
import SnmpManager.Proofs.Walk.Batching
import SnmpManager.Proofs.Walk.Journal

/-!
# The discipline of a walk

Whatever an agent does, a walk asks and reports in at most three stages: about the
root itself, if its options say so; about what follows the last object found; and,
if nothing came of all that, about the root itself once more
(`Walk.polls_disciplined`).

- `Walk.askedIn`, `Walk.foundIn`: the requests and the bindings among some events.
- `Walk.Iterated`: the events of an iteration.
- `Walk.Stages`: the events of a walk, stage by stage.
- `Walk.Course`: where a walk stands after its events. Judging a binding and
  making a round trip both keep to it (`Walk.kept_course`).
-/

namespace SnmpManager

namespace Walk

/-! ## What events say -/

/-- The requests among some events. -/
def askedIn (events : List Event) : List Request :=
  events.filterMap fun
    | .asked request _ => some request
    | .reported _ => none

/-- The bindings reported among some events. -/
def foundIn (events : List Event) : List VarBind :=
  (reportedIn events).filterMap Except.toOption

section

variable (request : Request) (outcome : Except Error Response) (item : Item)
  (events first second : List Event)

@[simp] theorem askedIn_nil : askedIn [] = [] :=
  rfl

@[simp] theorem askedIn_append :
    askedIn (first ++ second) = askedIn first ++ askedIn second :=
  List.filterMap_append

@[simp] theorem askedIn_asked :
    askedIn (.asked request outcome :: events) = request :: askedIn events :=
  rfl

@[simp] theorem askedIn_reported : askedIn (.reported item :: events) = askedIn events :=
  rfl

@[simp] theorem askedIn_told (report : Option Item) : askedIn (told report) = [] := by
  cases report <;> rfl

@[simp] theorem foundIn_nil : foundIn [] = [] :=
  rfl

@[simp] theorem foundIn_append :
    foundIn (first ++ second) = foundIn first ++ foundIn second := by
  rw [foundIn, reportedIn_append, List.filterMap_append, foundIn, foundIn]

@[simp] theorem foundIn_asked :
    foundIn (.asked request outcome :: events) = foundIn events :=
  rfl

@[simp] theorem foundIn_ok (binding : VarBind) :
    foundIn (.reported (.ok binding) :: events) = binding :: foundIn events :=
  rfl

@[simp] theorem foundIn_error (error : Error) :
    foundIn (.reported (.error error) :: events) = foundIn events :=
  rfl

end

/-- There is no error among the reports. -/
def Clean (events : List Event) : Prop :=
  reportedIn events = (foundIn events).map .ok

/-! ## Stages -/

section

variable (root : Oid) (options : WalkOptions)

/-- The events of an iteration: it begins with its request for the root, each request asks about the
last object it found, each binding it finds is `Acceptable`, and no request but the last is made in
vain. -/
structure Iterated (iteration : List Event) : Prop where
  begins : iteration ≠ [] →
    ∃ outcome later, iteration = .asked (iterationRequest options root) outcome :: later
  asks : ∀ earlier request outcome later,
    iteration = earlier ++ .asked request outcome :: later →
      request = iterationRequest options (lastOid root (foundIn earlier))
  finds : ∀ earlier binding later, iteration = earlier ++ .reported (.ok binding) :: later →
    Acceptable root options (lastOid root (foundIn earlier)) binding
  few : (askedIn iteration).length ≤ (foundIn iteration).length + 1

/-- One round trip about the root itself, and what is reported of it. -/
def AboutRoot (events : List Event) : Prop :=
  ∃ outcome, ∃ report : Option Item, events = .asked (.get [root]) outcome :: told report

/-- The events of a walk after so many polls: those that have to do with the root itself, those of
the iteration, and those that have to do with the root after that. -/
structure Stages (polls : Nat) (opening iteration closing : List Event) : Prop where
  opens : if options.includeStart ∧ 0 < polls then AboutRoot root opening else opening = []
  /-- Only an error in the opening, or too few polls, keeps a walk from its iteration. -/
  starts : 0 < polls ∧ reportedIn opening = [] ∨ 1 < polls ∧ foundIn opening ≠ [] →
    iteration ≠ []
  iterates : Iterated root options iteration
  closes : closing ≠ [] → AboutRoot root closing ∧ iteration ≠ [] ∧
    options.fallbackOnEmpty = true ∧ reportedIn (opening ++ iteration) = []

/-- What a walk does about the root itself before it iterates, unless that fails. -/
def Opened (opening : List Event) : Prop :=
  if options.includeStart then
    ∃ outcome, ∃ binding? : Option VarBind,
      opening = .asked (.get [root]) outcome :: told (binding?.map .ok)
  else opening = []

/-- The events of a walk that is over, stage by stage as in `Stages`. -/
structure Over (opening iteration closing : List Event) : Prop where
  opens : if options.includeStart then AboutRoot root opening else opening = []
  starts : iteration ≠ [] ∨ ∃ error, reportedIn opening = [.error error]
  iterates : Iterated root options iteration
  closes : if options.fallbackOnEmpty ∧ reportedIn (opening ++ iteration) = []
    then AboutRoot root closing else closing = []
  fails : ∃ error? : Option Error, reportedIn (opening ++ iteration ++ closing)
    = (foundIn (opening ++ iteration ++ closing)).map .ok ++ error?.toList.map .error

/-- Where a walk stands after its events: one case for each `Phase`. -/
inductive Course : Walk → List Event → Prop where
  | seed (includeStart : options.includeStart = true) : Course (start root options) []
  | iterate {opening iteration : List Event} (buffer : List VarBind)
    (opened : Opened root options opening) (iterated : Iterated root options iteration)
    (begun : buffer ≠ [] → iteration ≠ []) (clean : Clean iteration)
    (even : buffer = [] → (askedIn iteration).length ≤ (foundIn iteration).length) :
    Course { iterating root options (lastOid root (foundIn iteration))
      (foundIn (opening ++ iteration)).length with buffer } (opening ++ iteration)
  | fallback {opening iteration : List Event} (cursor : Oid)
    (opened : Opened root options opening) (iterated : Iterated root options iteration)
    (begun : iteration ≠ []) (nothing : reportedIn (opening ++ iteration) = [])
    (tries : options.fallbackOnEmpty = true) :
    Course { iterating root options cursor 0 with phase := .fallback } (opening ++ iteration)
  | done {opening iteration closing : List Event} (cursor : Oid)
    (isOver : Over root options opening iteration closing) :
    Course { iterating root options cursor
      (foundIn (opening ++ iteration ++ closing)).length with phase := .done }
      (opening ++ iteration ++ closing)

end

variable {root : Oid} {options : WalkOptions} {opening iteration : List Event}

/-! ## One more event -/

theorem iterated_nil : Iterated root options [] where
  begins some := absurd rfl some
  asks earlier request outcome later split := absurd split (by simp)
  finds earlier binding later split := absurd split (by simp)
  few := Nat.zero_le _

/-- An event of a list with one more at its end is in the list, or the one at its end. -/
theorem split_concat {earlier later events : List Event} {event last : Event}
    (split : events ++ [last] = earlier ++ event :: later) :
    (∃ before, events = earlier ++ event :: before) ∨ last = event ∧ events = earlier := by
  obtain rfl | ⟨before, other, rfl⟩ := later.eq_nil_or_concat'
  · obtain ⟨same, last⟩ := List.append_inj' split rfl
    cases last
    exact .inr ⟨rfl, same⟩
  · rw [← List.cons_append, ← List.append_assoc] at split
    exact .inl ⟨before, (List.append_inj' split rfl).1⟩

/-- An iteration goes on with one more event, which is held to what `Iterated` says of each. -/
theorem Iterated.concat (h : Iterated root options iteration) {event : Event}
    (begun : iteration ≠ [] ∨ ∃ request outcome, event = .asked request outcome)
    (asks : ∀ request outcome, event = .asked request outcome →
      request = iterationRequest options (lastOid root (foundIn iteration)))
    (finds : ∀ binding, event = .reported (.ok binding) →
      Acceptable root options (lastOid root (foundIn iteration)) binding)
    (few : (askedIn (iteration ++ [event])).length ≤ (foundIn (iteration ++ [event])).length + 1) :
    Iterated root options (iteration ++ [event]) where
  begins _ := by
    by_cases first : iteration = []
    · obtain ⟨request, outcome, rfl⟩ := begun.resolve_left (not_not_intro first)
      rw [asks request outcome rfl, first]
      exact ⟨outcome, [], rfl⟩
    · obtain ⟨outcome, later, rfl⟩ := h.begins first
      exact ⟨outcome, later ++ [event], rfl⟩
  asks earlier request outcome later split := by
    obtain ⟨before, split⟩ | ⟨same, rfl⟩ := split_concat split
    · exact h.asks earlier request outcome before split
    · exact asks request outcome same
  finds earlier binding later split := by
    obtain ⟨before, split⟩ | ⟨same, rfl⟩ := split_concat split
    · exact h.finds earlier binding before split
    · exact finds binding same
  few := few

/-- `Iterated.concat` for a round trip, which may only be made when no request before it was in
vain. -/
theorem Iterated.asked (h : Iterated root options iteration)
    (even : (askedIn iteration).length ≤ (foundIn iteration).length)
    (outcome : Except Error Response) :
    Iterated root options (iteration ++
      [.asked (iterationRequest options (lastOid root (foundIn iteration))) outcome]) := by
  refine h.concat (.inr ⟨_, _, rfl⟩) ?_ (fun _ same => nomatch same) (by simpa using even)
  rintro _ _ ⟨⟩
  rfl

/-- `Iterated.concat` for a binding that is reported. -/
theorem Iterated.found (h : Iterated root options iteration) (begun : iteration ≠ [])
    {binding : VarBind}
    (ok : Acceptable root options (lastOid root (foundIn iteration)) binding) :
    Iterated root options (iteration ++ [.reported (.ok binding)]) := by
  refine h.concat (.inl begun) (fun _ _ same => nomatch same) ?_
    (by simpa using Nat.le_succ_of_le h.few)
  rintro _ ⟨⟩
  exact ok

/-- `Iterated.concat` for an error, which nothing is asked of. -/
theorem Iterated.failed (h : Iterated root options iteration) (begun : iteration ≠ [])
    (error : Error) : Iterated root options (iteration ++ [.reported (.error error)]) :=
  h.concat (.inl begun) (fun _ _ same => nomatch same) (fun _ same => nomatch same)
    (by simpa using h.few)

theorem Opened.opens (h : Opened root options opening) :
    if options.includeStart then AboutRoot root opening else opening = [] := by
  rw [Opened] at h
  split at h
  case isTrue includeStart =>
    obtain ⟨outcome, binding?, rfl⟩ := h
    rw [if_pos includeStart]
    exact ⟨outcome, _, rfl⟩
  case isFalse exclude => rwa [if_neg exclude]

theorem Opened.clean (h : Opened root options opening) : Clean opening := by
  rw [Opened] at h
  split at h
  case isTrue includeStart =>
    obtain ⟨outcome, binding?, rfl⟩ := h
    cases binding? <;> rfl
  case isFalse exclude =>
    rw [h]
    rfl

/-- An opening reports one binding at most. -/
theorem Opened.atMost (h : Opened root options opening) : (reportedIn opening).length ≤ 1 := by
  rw [Opened] at h
  split at h
  case isTrue includeStart =>
    obtain ⟨outcome, binding?, rfl⟩ := h
    cases binding? with
    | none => exact Nat.zero_le _
    | some binding => exact Nat.le_refl _
  case isFalse exclude =>
    rw [h]
    exact Nat.zero_le _

theorem Clean.failed {events : List Event} (h : Clean events) (error : Error) :
    reportedIn (events ++ [.reported (.error error)])
      = (foundIn (events ++ [.reported (.error error)])).map .ok ++ [.error error] := by
  rw [reportedIn_append, h, foundIn_append, foundIn_error, foundIn_nil, List.append_nil]
  rfl

theorem lastOid_concat (previous : Oid) (bindings : List VarBind) (binding : VarBind) :
    lastOid previous (bindings ++ [binding]) = binding.oid := by
  rw [lastOid, List.map_append, List.map_singleton, List.getLastD_concat]

theorem Clean.append {first second : List Event} (h : Clean first) (h' : Clean second) :
    Clean (first ++ second) := by
  rw [Clean, reportedIn_append, foundIn_append, List.map_append, h, h']

/-! ## One step -/

/-- What `absorb` makes of an answer about the root itself: an error ends the walk, and otherwise
there is a binding or none, and the next phase. -/
theorem absorb_root_cases {walk : Walk} (phase : walk.phase = .seed ∨ walk.phase = .fallback)
    (outcome : Except Error Response) :
    (∃ error, walk.absorb outcome =
      (some (.error error), { walk with phase := .done, buffer := [] })) ∨
    ∃ binding? : Option VarBind, walk.absorb outcome = (binding?.map .ok, { walk with
      phase := if walk.phase = .seed then .iterate else .done
      found := walk.found + binding?.toList.length }) ∧
      ∀ binding ∈ binding?, ∃ response, outcome = .ok response ∧ binding ∈ response.bindings := by
  cases outcome with
  | error error => exact .inl ⟨error, rfl⟩
  | ok response =>
    have taken : walk.absorb (.ok response) = walk.absorbRoot response := by
      obtain phase | phase := phase <;> simp only [absorb, phase]
    rw [taken, absorbRoot]
    cases checked : response.check with
    | error error => exact .inl ⟨error, rfl⟩
    | ok bindings =>
      -- a check that passes gives the bindings as they came
      obtain rfl : response.bindings = bindings := by
        rw [Response.check] at checked
        split at checked <;> cases checked
        rfl
      cases filled : response.bindings with
      | nil => exact .inr ⟨none, rfl, fun _ mem => absurd mem (Option.not_mem_none _)⟩
      | cons binding rest =>
        refine .inr ⟨some binding, rfl, ?_⟩
        rintro _ ⟨⟩
        exact ⟨response, rfl, filled ▸ List.mem_cons_self⟩

/-- What `absorb` makes of an answer of the iteration: an error, the end of the iteration, or
bindings to judge. -/
theorem absorb_batch_cases {walk : Walk} (phase : walk.phase = .iterate)
    (outcome : Except Error Response) :
    (∃ error, walk.absorb outcome =
      (some (.error error), { walk with phase := .done, buffer := [] })) ∨
    walk.absorb outcome = (none, walk.endIteration) ∨
    ∃ response, outcome = .ok response ∧ response.bindings ≠ [] ∧
      walk.absorb outcome = (none, { walk with buffer := response.bindings }) := by
  cases outcome with
  | error error => exact .inl ⟨error, rfl⟩
  | ok response =>
    have taken : walk.absorb (.ok response) = walk.absorbBatch response := by
      simp only [absorb, phase]
    rw [taken, absorbBatch]
    split
    case isTrue => exact .inl ⟨_, rfl⟩
    case isFalse =>
      split
      case isTrue => exact .inr (.inl rfl)
      case isFalse filled => exact .inr (.inr ⟨response, rfl, filled, rfl⟩)

section

variable (opened : Opened root options opening)

include opened

/-- An iteration that fails is the end of the walk, which is then `Over`. -/
theorem course_of_failed (cursor : Oid) (iterated : Iterated root options iteration)
    {error : Error} (fails : reportedIn iteration = (foundIn iteration).map .ok ++ [.error error]) :
    Course root options { iterating root options cursor (foundIn (opening ++ iteration)).length with
      phase := .done } (opening ++ iteration) := by
  have something : reportedIn (opening ++ iteration) ≠ [] := by simp [fails]
  have begun : iteration ≠ [] := by
    rintro rfl
    exact absurd fails.symm (List.append_ne_nil_of_right_ne_nil _ (List.cons_ne_nil _ _))
  have isOver : Over root options opening iteration [] := by
    refine ⟨opened.opens, .inl begun, iterated, ?_, some error, ?_⟩
    · rw [if_neg (fun h => something h.2)]
    · rw [List.append_nil, reportedIn_append, foundIn_append, List.map_append, opened.clean, fails,
        List.append_assoc]
      rfl
  simpa only [List.append_nil] using Course.done cursor isOver

/-- An iteration that ends otherwise may leave the root itself to be asked for: `endIteration` stays
on the `Course` of the walk. -/
theorem course_of_ended (cursor : Oid) (iterated : Iterated root options iteration)
    (begun : iteration ≠ []) (clean : Clean iteration) (buffer : List VarBind) :
    Course root options { iterating root options cursor (foundIn (opening ++ iteration)).length with
      buffer }.endIteration (opening ++ iteration) := by
  have all : Clean (opening ++ iteration) := opened.clean.append clean
  have nothing_iff : (foundIn (opening ++ iteration)).length = 0 ↔
      reportedIn (opening ++ iteration) = [] := by
    rw [all, List.length_eq_zero_iff, List.map_eq_nil_iff]
  rw [endIteration]
  by_cases empty : (foundIn (opening ++ iteration)).length = 0 ∧ options.fallbackOnEmpty = true
  · simp only [iterating, empty, and_self, if_true]
    exact .fallback cursor opened iterated begun (nothing_iff.mp empty.1) empty.2
  · simp only [iterating, empty, if_false]
    have isOver : Over root options opening iteration [] := by
      refine ⟨opened.opens, .inl begun, iterated, ?_, none, ?_⟩
      · rw [if_neg (fun h => empty ⟨nothing_iff.mpr h.2, h.1⟩)]
      · simpa [Clean] using all
    have done := Course.done cursor isOver
    rw [List.append_nil] at done
    exact done

end

/-- Judging a binding keeps a walk on its `Course`: it is found, ends the iteration, or is an
error. -/
theorem Course.drain {walk : Walk} {events : List Event} (h : Course root options walk events) :
    Course root options walk.drain.2 (events ++ told walk.drain.1) := by
  by_cases empty : walk.buffer = []
  · rw [drain_of_buffer_eq_nil empty]
    exact (List.append_nil events).symm ▸ h
  -- only a walk that iterates has something in its buffer
  cases h with
  | seed | fallback | done => exact absurd rfl empty
  | @iterate opening iteration buffer opened iterated filled clean even =>
    have begun := filled empty
    obtain ⟨binding, rest, rfl⟩ := List.exists_cons_of_ne_nil empty
    rw [Walk.drain]
    dsimp only
    split
    case h_1 verdict =>
      have ok := acceptable_of_judge verdict
      have clean : Clean (iteration ++ [.reported (.ok binding)]) := clean.append rfl
      -- a report makes room for one request more
      have even := iterated.few
      have some : iteration ++ [.reported (.ok binding)] ≠ [] :=
        List.append_ne_nil_of_left_ne_nil begun _
      have next := Course.iterate rest opened (iterated.found begun ok) (fun _ => some) clean
        fun _ => by simpa using even
      rw [← List.append_assoc, foundIn_append iteration, foundIn_ok, foundIn_nil, lastOid_concat,
        foundIn_append (opening ++ iteration), List.length_append] at next
      exact next
    case h_2 =>
      exact (List.append_nil (opening ++ iteration)).symm ▸
        course_of_ended opened _ iterated begun clean rest
    case h_3 error _ =>
      have last := course_of_failed opened (lastOid root (foundIn iteration))
        (iterated.failed begun error) (clean.failed error)
      rw [← List.append_assoc, foundIn_append (opening ++ iteration), List.length_append] at last
      exact last

theorem request?_iterating (root : Oid) (options : WalkOptions) (cursor : Oid) (found : Nat) :
    (iterating root options cursor found).request? = some (iterationRequest options cursor) := by
  rw [iterationRequest]
  cases bulk : options.bulk <;> simp only [request?, iterating, bulk]

/-- An answer of the iteration is taken in, in each of the cases of `absorb_batch_cases`. -/
theorem course_of_answer (opened : Opened root options opening)
    (iterated : Iterated root options iteration) (clean : Clean iteration)
    (even : (askedIn iteration).length ≤ (foundIn iteration).length)
    (outcome : Except Error Response) :
    let cursor := lastOid root (foundIn iteration)
    let walk := iterating root options cursor (foundIn (opening ++ iteration)).length
    Course root options (walk.absorb outcome).2 (opening ++ iteration ++
      .asked (iterationRequest options cursor) outcome :: told (walk.absorb outcome).1) := by
  intro cursor walk
  have phase : walk.phase = .iterate := rfl
  have iterated := iterated.asked even outcome
  have begun : iteration ++ [.asked (iterationRequest options cursor) outcome] ≠ [] :=
    List.append_ne_nil_of_right_ne_nil _ (List.cons_ne_nil _ _)
  have clean : Clean (iteration ++ [.asked (iterationRequest options cursor) outcome]) :=
    clean.append rfl
  -- a request is no report
  have none : foundIn (iteration ++ [.asked (iterationRequest options cursor) outcome])
      = foundIn iteration := by simp
  have found : foundIn (opening ++ (iteration ++
      [.asked (iterationRequest options cursor) outcome])) = foundIn (opening ++ iteration) := by
    simp
  have split (more : List Event) : opening ++ iteration ++
      .asked (iterationRequest options cursor) outcome :: more = opening ++ (iteration ++
        [.asked (iterationRequest options cursor) outcome]) ++ more := by
    simp
  obtain ⟨error, absorbed⟩ | absorbed | ⟨response, rfl, filled, absorbed⟩ :=
    absorb_batch_cases phase outcome
  · have last := course_of_failed opened cursor (iterated.failed begun error) (clean.failed error)
    rw [← List.append_assoc, foundIn_append _ [_], foundIn_error, foundIn_nil, List.append_nil,
      found] at last
    rw [absorbed, split]
    exact last
  · have last := course_of_ended opened cursor iterated begun clean []
    rw [found] at last
    rw [absorbed, split, told, Option.toList_none, List.map_nil, List.append_nil]
    exact last
  · have next := Course.iterate response.bindings opened iterated (fun _ => begun) clean
      fun none => absurd none filled
    rw [found, none] at next
    rw [absorbed, split, told, Option.toList_none, List.map_nil, List.append_nil]
    exact next

/-- Asking for the root itself once more is the end of the walk. -/
theorem course_of_fallback (opened : Opened root options opening)
    (iterated : Iterated root options iteration) (begun : iteration ≠ [])
    (nothing : reportedIn (opening ++ iteration) = []) (tries : options.fallbackOnEmpty = true)
    (cursor : Oid) (outcome : Except Error Response) (report : Option Item) :
    Course root options { iterating root options cursor
      (foundIn (.asked (.get [root]) outcome :: told report)).length with phase := .done }
      (opening ++ iteration ++ .asked (.get [root]) outcome :: told report) := by
  have silent : foundIn (opening ++ iteration) = [] := by
    rw [foundIn, nothing, List.filterMap_nil]
  have isOver : Over root options opening iteration
      (.asked (.get [root]) outcome :: told report) := by
    refine ⟨opened.opens, .inl begun, iterated, ?_, ?_⟩
    · rw [if_pos ⟨tries, nothing⟩]
      exact ⟨outcome, report, rfl⟩
    · rw [reportedIn_append, nothing, foundIn_append, silent]
      match report with
      | none => exact ⟨none, rfl⟩
      | some (.ok binding) => exact ⟨none, rfl⟩
      | some (.error error) => exact ⟨some error, rfl⟩
  have done := Course.done cursor isOver
  rw [foundIn_append, silent, List.nil_append] at done
  exact done

/-- A round trip keeps a walk on its `Course`, phase by phase. -/
theorem Course.absorb {walk : Walk} {events : List Event} {request : Request}
    (h : Course root options walk events) (empty : walk.buffer = [])
    (asks : walk.request? = some request) (outcome : Except Error Response) :
    Course root options (walk.absorb outcome).2
      (events ++ .asked request outcome :: told (walk.absorb outcome).1) := by
  cases h with
  | seed includeStart =>
    have phase : (start root options).phase = .seed := if_pos includeStart
    obtain rfl : .get [root] = request := by
      simp only [request?, phase] at asks
      exact Option.some.inj asks
    obtain ⟨error, absorbed⟩ | ⟨binding?, absorbed, -⟩ := absorb_root_cases (.inl phase) outcome
    -- the walk failed at its opening, and nothing is to follow
    · have isOver : Over root options
          [.asked (.get [root]) outcome, .reported (.error error)] [] [] := by
        refine ⟨?_, .inr ⟨error, rfl⟩, iterated_nil, ?_, some error, rfl⟩
        · rw [if_pos includeStart]
          exact ⟨outcome, some (.error error), rfl⟩
        · rw [if_neg (fun h => List.cons_ne_nil _ _ h.2)]
      rw [absorbed]
      exact .done root isOver
    · have opened : Opened root options
          (.asked (.get [root]) outcome :: told (binding?.map .ok)) := by
        rw [Opened, if_pos includeStart]
        exact ⟨outcome, binding?, rfl⟩
      have next := Course.iterate [] opened iterated_nil (absurd rfl) rfl fun _ => Nat.le_refl _
      rw [absorbed, phase, if_pos rfl]
      rw [List.append_nil] at next
      cases binding? <;> exact next
  | @iterate opening iteration buffer opened iterated _ clean even =>
    obtain rfl : buffer = [] := empty
    obtain rfl : iterationRequest options (lastOid root (foundIn iteration)) = request :=
      Option.some.inj ((request?_iterating root options _ _).symm.trans asks)
    exact course_of_answer opened iterated clean (even rfl) outcome
  | fallback cursor opened iterated begun nothing tries =>
    obtain rfl : .get [root] = request := Option.some.inj asks
    have last := course_of_fallback opened iterated begun nothing tries cursor outcome
    have phase : ({ iterating root options cursor 0 with phase := .fallback } : Walk).phase
      = .fallback := rfl
    obtain ⟨error, absorbed⟩ | ⟨binding?, absorbed, -⟩ := absorb_root_cases (.inr phase) outcome
    · rw [absorbed]
      exact last (some (.error error))
    · rw [absorbed]
      cases binding? with
      | none => exact last none
      | some binding => exact last (some (.ok binding))
  -- a walk that is over has nothing to ask
  | done cursor isOver => cases asks

/-! ## Any number of polls -/

/-- A report that has no binding. -/
def Final (report : Option Item) : Prop :=
  ∀ binding, report ≠ some (.ok binding)

theorem Course.events_of_seed {walk : Walk} {events : List Event}
    (h : Course root options walk events) (phase : walk.phase = .seed) : events = [] := by
  cases h with
  | seed => rfl
  | iterate | fallback | done => cases phase

theorem Course.tidy {walk : Walk} {events : List Event} (h : Course root options walk events) :
    walk.Tidy := by
  cases h with
  | iterate => exact fun _ => rfl
  | seed | fallback | done => exact tidy_of_buffer_eq_nil rfl

theorem Course.found_eq {walk : Walk} {events : List Event} (h : Course root options walk events) :
    walk.found = (foundIn events).length := by
  cases h with
  | seed | iterate | done => rfl
  | fallback cursor opened iterated begun nothing tries =>
    rw [foundIn, nothing]
    rfl

/-- An error is the last report of a walk on its `Course`. -/
theorem Course.reported_eq {walk : Walk} {events : List Event}
    (h : Course root options walk events) :
    reportedIn events = (foundIn events).map .ok ∨ walk.Ended ∧ ∃ error,
      reportedIn events = (foundIn events).map .ok ++ [.error error] := by
  cases h with
  | seed => exact .inl rfl
  | iterate buffer opened iterated begun clean even => exact .inl (opened.clean.append clean)
  | fallback cursor opened iterated begun nothing tries =>
    refine .inl ?_
    rw [foundIn, nothing]
    rfl
  | done cursor isOver =>
    obtain ⟨error?, reported⟩ := isOver.fails
    cases error? with
    | none => exact .inl (reported.trans (List.append_nil _))
    | some error => exact .inr ⟨⟨rfl, rfl⟩, error, reported⟩

theorem Course.ended_of_failed {walk : Walk} {events : List Event} {error : Error}
    (h : Course root options walk (events ++ [.reported (.error error)])) : walk.Ended := by
  obtain clean | ⟨ended, -⟩ := h.reported_eq
  · have mem : .error error ∈ reportedIn (events ++ [.reported (.error error)]) := by simp
    rw [clean] at mem
    obtain ⟨binding, -, same⟩ := List.mem_map.mp mem
    cases same
  · exact ended

variable {σ : Type} (session : Session (StateM σ))

/-- The step lemma: judging a binding and making a round trip keep to the `Course` of a walk. -/
theorem kept_course (root : Oid) (options : WalkOptions) : Kept session (Course root options) where
  drain := Course.drain
  absorb h empty asks _ := h.absorb empty asks _

/-- The step lemma for a poll, which leaves the first phase and ends the walk if its report is
`Final`. -/
theorem pollNoted_course {walk : Walk} {journal : Journal σ}
    (h : Course root options walk journal.events) :
    Ensures (pollNoted session walk) journal fun result later =>
      Course root options result.2 later.events ∧ (Final result.1 → result.2.Ended) ∧
        result.2.phase ≠ .seed := by
  have kept := (kept_course session root options).nextBy walk.phase.requests h
  have quiet := nextBy_none (askNoted session) h.tidy.requests_le journal
  refine ensures_bind (ensures_mono (ensures_and kept quiet) ?_)
  rintro ⟨report, after⟩ later ⟨course, quiet⟩
  refine ⟨course, fun final => ?_, fun phase => ?_⟩
  · match report with
    | none => exact quiet rfl
    | some (.error error) => exact course.ended_of_failed
    | some (.ok binding) => exact absurd rfl (final binding)
  · cases report with
    | none => exact absurd (phase.symm.trans (quiet rfl).2) (by decide)
    | some item => exact absurd (course.events_of_seed phase) (by simp [told])

/-- By induction on the polls: where a walk stands on its `Course` after any number of them. -/
theorem polls_course (count : Nat) (journal : Journal σ) {walk : Walk}
    (h : Course root options walk journal.events) :
    Ensures (polls (pollNoted session) count walk) journal fun result later =>
      Course root options result.2 later.events ∧
        ((∃ report ∈ result.1, Final report) → result.2.Ended) ∧
        ((walk.phase = .seed → 0 < count) → result.2.phase ≠ .seed) := by
  induction count generalizing walk journal with
  | zero =>
    refine ⟨h, fun ⟨_, mem, _⟩ => absurd mem List.not_mem_nil, fun begun phase => ?_⟩
    exact Nat.not_lt_zero _ (begun phase)
  | succ count ih =>
    refine ensures_bind (ensures_mono (pollNoted_course session h) ?_)
    rintro ⟨report, between⟩ later ⟨course, final, begun⟩
    by_cases isFinal : Final report
    · have ended := final isFinal
      dsimp only
      rw [Ensures, run_bind_of (run_polls_of_ended session ended count later)]
      exact ⟨course, fun _ => ended, fun _ => begun⟩
    · refine ensures_bind (ensures_mono (ih later course) ?_)
      rintro ⟨reports, last⟩ journal ⟨course, others, phase⟩
      refine ⟨course, fun ⟨final, mem, isLast⟩ => ?_, fun _ => phase (absurd · begun)⟩
      obtain rfl | mem := List.mem_cons.mp mem
      · exact absurd isLast isFinal
      · exact others ⟨final, mem, isLast⟩

theorem start_phase_ne_done (root : Oid) (options : WalkOptions) :
    (start root options).phase ≠ .done := by
  rw [start]
  dsimp only
  split <;> decide

theorem course_start (root : Oid) (options : WalkOptions) :
    Course root options (start root options) [] := by
  by_cases includeStart : options.includeStart = true
  · exact .seed includeStart
  · have begins : start root options = iterating root options root 0 := by
      rw [start, if_neg includeStart]
      rfl
    have opened : Opened root options [] := by rw [Opened, if_neg includeStart]
    rw [begins]
    exact .iterate [] opened iterated_nil (absurd rfl) rfl fun _ => Nat.le_refl _

/-- A walk that is not `Ended` has made a report in each of its polls. -/
theorem polls_lively (root : Oid) (options : WalkOptions) (world : σ) (count : Nat) :
    Ensures (polls (pollNoted session) count (start root options)) { world } fun result later =>
      ¬ result.2.Ended → (reportedIn later.events).length = count := by
  refine ensures_mono (ensures_and (ensures_and
    (polls_course session count { world } (course_start root options))
    (polls_reports session count (start root options) { world }))
    (polls_length (pollNoted session) count (start root options) { world })) ?_
  rintro result later ⟨⟨⟨-, final, -⟩, reported⟩, length⟩ goesOn
  have all : ∀ report ∈ result.1, report.isSome = true := by
    intro report mem
    cases report with
    | none => exact absurd (final ⟨none, mem, fun _ same => nomatch same⟩) goesOn
    | some item => rfl
  rw [reported, ← length]
  exact List.reduceOption_length_eq_iff.mpr all

/-- A walk on its `Course` has come as far as `Stages` says, case by case over where it stands. -/
theorem Course.stages {walk : Walk} {events : List Event} (h : Course root options walk events)
    {count : Nat} (seeded : walk.phase ≠ .seed) (polled : 0 < count)
    (lively : ¬ walk.Ended → (reportedIn events).length = count) :
    ∃ opening iteration closing, events = opening ++ iteration ++ closing ∧
      Stages root options count opening iteration closing ∧
      (walk.Ended → (closing ≠ [] ↔
        options.fallbackOnEmpty = true ∧ reportedIn (opening ++ iteration) = [])) := by
  cases h with
  | seed includeStart => exact absurd (if_pos includeStart) seeded
  | @iterate opening iteration _ opened iterated =>
    have lively := lively fun ended => nomatch ended.2
    refine ⟨opening, iteration, [], (List.append_nil _).symm,
      ⟨?_, ?_, iterated, absurd rfl⟩, fun ended => nomatch ended.2⟩
    · simpa only [polled, and_true] using opened.opens
    · -- each poll had a report, and the opening has room for one
      rintro reason rfl
      rw [List.append_nil] at lively
      obtain ⟨-, silent⟩ | ⟨more, -⟩ := reason
      · rw [silent] at lively
        exact absurd lively (Nat.ne_of_lt polled)
      · exact absurd opened.atMost (by omega)
  | @fallback opening iteration _ opened iterated begun =>
    refine ⟨opening, iteration, [], (List.append_nil _).symm,
      ⟨?_, fun _ => begun, iterated, absurd rfl⟩, fun ended => nomatch ended.2⟩
    simpa only [polled, and_true] using opened.opens
  | @done opening iteration closing _ isOver =>
    have closes_iff : closing ≠ [] ↔
        options.fallbackOnEmpty = true ∧ reportedIn (opening ++ iteration) = [] := by
      have closes := isOver.closes
      split at closes
      case isTrue h =>
        obtain ⟨outcome, report, rfl⟩ := closes
        exact ⟨fun _ => h, fun _ => List.cons_ne_nil _ _⟩
      case isFalse h => exact ⟨fun some => absurd closes some, fun h' => absurd h' h⟩
    refine ⟨opening, iteration, closing, rfl, ⟨?_, fun reason => ?_, isOver.iterates,
      fun some => ?_⟩, fun _ => closes_iff⟩
    · simpa only [polled, and_true] using isOver.opens
    · -- an error in the opening is a report, and no binding
      refine isOver.starts.resolve_right fun ⟨error, failed⟩ => ?_
      obtain ⟨-, silent⟩ | ⟨-, found⟩ := reason
      · exact absurd (failed.symm.trans silent) (List.cons_ne_nil _ _)
      · exact found (by rw [foundIn, failed]; rfl)
    · have closes := isOver.closes
      have h := closes_iff.mp some
      rw [if_pos h] at closes
      refine ⟨closes, isOver.starts.resolve_right fun ⟨error, failed⟩ => ?_, h⟩
      have silent := h.2
      rw [reportedIn_append, failed] at silent
      exact List.cons_ne_nil _ _ silent

/-- The first round trip of a walk asks for the root itself exactly if its options say so; otherwise
it is the `iterationRequest` for the root. -/
theorem Stages.first {count : Nat} {closing : List Event}
    (h : Stages root options count opening iteration closing) (polled : 0 < count) :
    (askedIn (opening ++ iteration ++ closing)).head? =
      some (if options.includeStart then .get [root] else iterationRequest options root) := by
  have opens := h.opens
  by_cases includeStart : options.includeStart = true
  · rw [if_pos ⟨includeStart, polled⟩] at opens
    obtain ⟨outcome, report, rfl⟩ := opens
    rw [if_pos includeStart]
    rfl
  · rw [if_neg fun both => includeStart both.1] at opens
    subst opens
    obtain ⟨outcome, later, rfl⟩ := h.iterates.begins (h.starts (.inl ⟨polled, rfl⟩))
    rw [if_neg includeStart]
    rfl

/-- The events of any number of polls fall into `Stages`. -/
theorem polls_stages (root : Oid) (options : WalkOptions) (world : σ) (count : Nat) :
    Ensures (polls (pollNoted session) count (start root options)) { world } fun result later =>
      ∃ opening iteration closing, later.events = opening ++ iteration ++ closing ∧
        Stages root options count opening iteration closing ∧
        (result.2.Ended → (closing ≠ [] ↔
          options.fallbackOnEmpty = true ∧ reportedIn (opening ++ iteration) = [])) := by
  obtain rfl | polled := Nat.eq_zero_or_pos count
  · refine ⟨[], [], [], rfl, ⟨?_, ?_, iterated_nil, absurd rfl⟩, fun ended => ?_⟩
    · rw [if_neg (fun h => Nat.lt_irrefl 0 h.2)]
    · rintro (⟨none, -⟩ | ⟨none, -⟩) <;> cases none
    · exact absurd ended.2 (start_phase_ne_done root options)
  · refine ensures_mono (ensures_and
      (polls_course session count { world } (course_start root options))
      (polls_lively session root options world count)) ?_
    exact fun _ _ ⟨⟨course, _, begun⟩, lively⟩ =>
      course.stages (begun fun _ => polled) polled lively

/-- After a report that is `Final` there are no others, and no round trips either. -/
theorem run_polls_of_final (root : Oid) (options : WalkOptions) (world : σ) (count : Nat) :
    let run (count : Nat) := (polls (pollNoted session) count (start root options)).run { world }
    (∃ report ∈ (run count).1.1, Final report) → ∀ more, run (count + more)
      = (((run count).1.1 ++ List.replicate more none, (run count).1.2), (run count).2) := by
  intro run isOver more
  obtain ⟨-, final, -⟩ := polls_course session count { world } (course_start root options)
  have first : run count = (((run count).1.1, (run count).1.2), (run count).2) := rfl
  refine (run_polls_add _ count more first).trans ?_
  rw [run_polls_of_ended session (final isOver)]

/-- Over any number of polls a walk keeps its count, ends with at most one error and no round trip
after that, and asks and reports as `Stages` says, stage by stage. -/
theorem polls_disciplined (root : Oid) (options : WalkOptions) (world : σ) (count : Nat) :
    let run (count : Nat) := (polls (pollNoted session) count (start root options)).run { world }
    let reports := (run count).1.1
    let walk := (run count).1.2
    let events := (run count).2.events
    let isOver := ∃ report ∈ reports, Final report
    ((run count).1, (run count).2.world)
      = (polls (next session) count (start root options)).run world ∧
    reportedIn events = reports.reduceOption ∧
    walk.found = (reports.reduceOption.filterMap Except.toOption).length ∧
    (∃ error? : Option Error, reports.reduceOption
      = (foundIn events).map .ok ++ error?.toList.map .error) ∧
    (isOver → ∀ more,
      run (count + more) = ((reports ++ List.replicate more none, walk), (run count).2)) ∧
    (0 < count → (askedIn events).head? =
      some (if options.includeStart then .get [root] else iterationRequest options root)) ∧
    ∃ opening iteration closing, events = opening ++ iteration ++ closing ∧
      Stages root options count opening iteration closing ∧
      (isOver → (closing ≠ [] ↔
        options.fallbackOnEmpty = true ∧ reportedIn (opening ++ iteration) = [])) := by
  intro run reports walk events isOver
  obtain ⟨course, final, -⟩ := polls_course session count { world } (course_start root options)
  have reported : reportedIn events = reports.reduceOption :=
    polls_reports session count (start root options) { world }
  obtain ⟨opening, iteration, closing, split, stages, ends⟩ :=
    polls_stages session root options world count
  refine ⟨erases_polls session count _ { world }, reported, ?_, ?_,
    run_polls_of_final session root options world count, fun polled => ?_,
    opening, iteration, closing, split, stages, fun isOver => ends (final isOver)⟩
  · rw [← reported]
    exact course.found_eq
  · rw [← reported]
    -- an error is reported last or not at all
    obtain clean | ⟨-, error, failed⟩ := course.reported_eq
    · exact ⟨none, clean.trans (List.append_nil _).symm⟩
    · exact ⟨some error, failed⟩
  · rw [show events = opening ++ iteration ++ closing from split]
    exact stages.first polled

/-- Nothing is found under a root, and the root itself is asked for, once. -/
theorem polls_disciplined_fallback :
    let root : Oid := ⟨[1, 3]⟩
    let outside : VarBind := ⟨⟨[1, 4]⟩, .null⟩
    let itself : VarBind := ⟨root, .integer 7⟩
    let run (count : Nat) :=
      (polls (pollNoted batchSession) count (start root { fallbackOnEmpty := true })).run
        { world := batchAgent [[outside], [itself]] }
    (run 2).1.1 = [some (.ok itself), none] ∧
    askedIn (run 2).2.events = [.getNext [root], .get [root]] ∧
    ∀ more, (run (2 + more)).2.events = (run 2).2.events := by
  intro root outside itself run
  have reports : (run 2).1.1 = [some (.ok itself), none] := by decide +kernel
  obtain ⟨-, -, -, -, ended, -⟩ := polls_disciplined batchSession root
    { fallbackOnEmpty := true } (batchAgent [[outside], [itself]]) 2
  refine ⟨reports, by decide +kernel, fun more => ?_⟩
  dsimp only [run] at ended reports ⊢
  rw [ended ⟨none, by rw [reports]; simp, fun _ same => nomatch same⟩ more]

end Walk

end SnmpManager
