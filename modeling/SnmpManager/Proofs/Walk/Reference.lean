import SnmpManager.Proofs.Oid.Order
import SnmpManager.Session.Walk

/-!
# What an iteration should report

The iteration of a walk, as a fact about the bindings it receives and nothing
else: which of them it reports, and how it ends.

- `Walk.follow`: bindings, each with the object before it.
- `Walk.Acceptable`: the rules for one binding and the object before it.
- `Walk.accepted`: the longest front of the bindings that keeps to the rules.
- `Walk.ending`: what the first binding after that front does to the iteration.
- `Walk.reference`, `Walk.resume`: the reports of the iteration, and the walk
  that is left.

`Walk.judge_of_acceptable` and `Walk.judge_of_not_acceptable` say that the walk's
own judgement, which goes through its rules in an order of its own, is the same.
-/

namespace SnmpManager

namespace Walk

/-- Bindings, each with the object before it. -/
def follow (previous : Oid) (bindings : List VarBind) : List (Oid × VarBind) :=
  (previous :: bindings.map VarBind.oid).zip bindings

/-- The last object of some bindings, or the one before them. -/
def lastOid (previous : Oid) (bindings : List VarBind) : Oid :=
  (bindings.map VarBind.oid).getLastD previous

theorem lastOid_cons (previous : Oid) (binding : VarBind) (bindings : List VarBind) :
    lastOid previous (binding :: bindings) = lastOid binding.oid bindings := by
  rw [lastOid, List.map_cons, List.getLastD_cons, lastOid]

/-- What a binding must be to be found by a walk that found `previous` before it. -/
structure Acceptable (root : Oid) (options : WalkOptions) (previous : Oid) (binding : VarBind) :
    Prop where
  isValue : binding.value.isException = false
  differs : binding.oid ≠ previous
  inOrder : options.checkIncrease = true → ¬ binding.oid < previous
  below : ∃ suffix, suffix ≠ [] ∧ binding.oid = root.extend suffix
  bounded : ∀ bound ∈ options.bound, binding.oid < bound

theorem acceptable_iff (root : Oid) (options : WalkOptions) (previous : Oid) (binding : VarBind) :
    Acceptable root options previous binding ↔
      binding.value.isException = false ∧ binding.oid ≠ previous ∧
      (options.checkIncrease = true → ¬ binding.oid < previous) ∧
      root.isBelow binding.oid = true ∧ ∀ bound ∈ options.bound, binding.oid < bound := by
  rw [Oid.isBelow_iff]
  constructor
  · rintro ⟨isValue, differs, inOrder, below, bounded⟩
    exact ⟨isValue, differs, inOrder, below, bounded⟩
  · rintro ⟨isValue, differs, inOrder, below, bounded⟩
    exact ⟨isValue, differs, inOrder, below, bounded⟩

instance (root : Oid) (options : WalkOptions) (previous : Oid) (binding : VarBind) :
    Decidable (Acceptable root options previous binding) :=
  decidable_of_iff' _ (acceptable_iff root options previous binding)

/-- How an iteration ends. -/
inductive Ending where
  /-- It does not: there may be more to find. -/
  | goesOn
  | stops
  | fails (error : Error)
  deriving DecidableEq, Repr

section

variable (root : Oid) (options : WalkOptions)

/-- The front of the bindings that is found. -/
def accepted (previous : Oid) (bindings : List VarBind) : List VarBind :=
  ((follow previous bindings).takeWhile fun (previous, binding) =>
    Acceptable root options previous binding).map Prod.snd

/-- The first binding that is not found, with the object before it. -/
def rejected? (previous : Oid) (bindings : List VarBind) : Option (Oid × VarBind) :=
  ((follow previous bindings).dropWhile fun (previous, binding) =>
    Acceptable root options previous binding).head?

/-- What the first binding that is not found does to the iteration. -/
def ending (previous : Oid) (bindings : List VarBind) : Ending :=
  match rejected? root options previous bindings with
  | none => .goesOn
  | some (previous, binding) =>
    if binding.value.isException then .stops
    else if options.checkIncrease ∧ binding.oid < previous then
      .fails (.nonIncreasingOid previous binding.oid)
    else .stops

/-- The reports of an iteration that receives these bindings. -/
def reference (previous : Oid) (bindings : List VarBind) : List Item :=
  (accepted root options previous bindings).map .ok ++
    match ending root options previous bindings with
    | .fails error => [.error error]
    | _ => []

/-- A walk that iterates from some object on. -/
def iterating (cursor : Oid) (found : Nat) : Walk :=
  { root, options, cursor, phase := .iterate, found }

/-- What is left of a walk that iterated over these bindings. -/
def resume (previous : Oid) (found : Nat) (bindings : List VarBind) : Walk :=
  let accepted := accepted root options previous bindings
  let walk := iterating root options (lastOid previous accepted)
    (found + accepted.length)
  match ending root options previous bindings with
  | .goesOn => walk
  | .stops => walk.endIteration
  | .fails _ => { walk with phase := .done }

end

/-! ## The judgement of a walk -/

/-- `judge` finds what is `Acceptable`. -/
theorem judge_of_acceptable {walk : Walk} {binding : VarBind}
    (h : Acceptable walk.root walk.options walk.cursor binding) : walk.judge binding = .found := by
  have inOrder : ¬ (walk.options.checkIncrease = true ∧ binding.oid < walk.cursor) :=
    fun decreases => h.inOrder decreases.1 decreases.2
  have below : walk.root.isBelow binding.oid = true := (Oid.isBelow_iff ..).mpr h.below
  have bounded := h.bounded
  rw [judge, h.isValue, if_neg Bool.false_ne_true, if_neg inOrder, if_neg h.differs, below,
    Bool.not_true, if_neg Bool.false_ne_true]
  split
  case h_1 bound isBound => rw [if_pos (bounded bound isBound)]
  case h_2 => rfl

/-- `judge` goes through its rules in an order of its own: what is not `Acceptable` stops the
iteration, except where the objects are required to increase and do not. -/
theorem judge_of_not_acceptable {walk : Walk} {binding : VarBind}
    (h : ¬ Acceptable walk.root walk.options walk.cursor binding) :
    walk.judge binding =
      if binding.value.isException then .stop
      else if walk.options.checkIncrease ∧ binding.oid < walk.cursor then
        .fail (.nonIncreasingOid walk.cursor binding.oid)
      else .stop := by
  rw [acceptable_iff] at h
  rw [judge]
  by_cases isException : binding.value.isException = true
  · rw [if_pos isException, if_pos isException]
  rw [if_neg isException, if_neg isException]
  by_cases decreases : walk.options.checkIncrease = true ∧ binding.oid < walk.cursor
  · rw [if_pos decreases, if_pos decreases]
  rw [if_neg decreases, if_neg decreases]
  -- nothing is wrong with the value or the order, so the verdict can only be to stop
  by_cases repeated : binding.oid = walk.cursor
  · rw [if_pos repeated]
  rw [if_neg repeated]
  by_cases below : walk.root.isBelow binding.oid = true
  · rw [below, Bool.not_true, if_neg Bool.false_ne_true]
    have unbounded : ¬ ∀ bound ∈ walk.options.bound, binding.oid < bound := fun bounded =>
      h ⟨eq_false_of_ne_true isException, repeated, fun check less => decreases ⟨check, less⟩,
        below, bounded⟩
    split
    case h_1 bound isBound =>
      rw [if_neg]
      intro less
      refine unbounded fun bound' isBound' => ?_
      rw [Option.mem_def, isBound] at isBound'
      cases isBound'
      exact less
    case h_2 isBound =>
      refine absurd (fun bound' isBound' => ?_) unbounded
      rw [isBound] at isBound'
      cases isBound'
  · rw [eq_false_of_ne_true below]
    rfl

/-- `judge` finds nothing else than what is `Acceptable`. -/
theorem acceptable_of_judge {walk : Walk} {binding : VarBind} (h : walk.judge binding = .found) :
    Acceptable walk.root walk.options walk.cursor binding := by
  refine Decidable.byContradiction fun notOk => ?_
  rw [judge_of_not_acceptable notOk] at h
  split at h
  case isTrue => cases h
  case isFalse =>
    split at h <;> cases h

/-! ## Binding by binding -/

variable {root : Oid} {options : WalkOptions} {previous : Oid} {binding : VarBind}
  {bindings : List VarBind}

section

variable (h : Acceptable root options previous binding)

include h

theorem accepted_cons : accepted root options previous (binding :: bindings)
    = binding :: accepted root options binding.oid bindings := by
  show (((previous, binding) :: follow binding.oid bindings).takeWhile _).map Prod.snd = _
  rw [List.takeWhile_cons_of_pos (by simpa using h)]
  rfl

theorem ending_cons : ending root options previous (binding :: bindings)
    = ending root options binding.oid bindings := by
  have rejected : rejected? root options previous (binding :: bindings)
      = rejected? root options binding.oid bindings := by
    show (((previous, binding) :: follow binding.oid bindings).dropWhile _).head? = _
    rw [List.dropWhile_cons_of_pos (by simpa using h)]
    rfl
  rw [ending, ending, rejected]

theorem reference_cons : reference root options previous (binding :: bindings)
    = .ok binding :: reference root options binding.oid bindings := by
  rw [reference, accepted_cons h, ending_cons h]
  rfl

theorem resume_cons (found : Nat) : resume root options previous found (binding :: bindings)
    = resume root options binding.oid (found + 1) bindings := by
  rw [resume, resume, accepted_cons h, ending_cons h, lastOid_cons, List.length_cons,
    Nat.add_right_comm, Nat.add_assoc]

end

section

variable (h : ¬ Acceptable root options previous binding)

include h

theorem accepted_cons_of_not : accepted root options previous (binding :: bindings) = [] := by
  show (((previous, binding) :: follow binding.oid bindings).takeWhile _).map Prod.snd = _
  rw [List.takeWhile_cons_of_neg (by simpa using h)]
  rfl

theorem ending_cons_of_not : ending root options previous (binding :: bindings) =
    if binding.value.isException then .stops
    else if options.checkIncrease ∧ binding.oid < previous then
      .fails (.nonIncreasingOid previous binding.oid)
    else .stops := by
  have rejected : rejected? root options previous (binding :: bindings)
      = some (previous, binding) := by
    show (((previous, binding) :: follow binding.oid bindings).dropWhile _).head? = _
    rw [List.dropWhile_cons_of_neg (by simpa using h)]
    rfl
  rw [ending, rejected]

end

/-! ## Bulk or not -/

/-- Whether a walk goes in bulk has no part in what is `Acceptable`. -/
theorem acceptable_bulk (root : Oid) (options : WalkOptions) (bulk : Option BulkCounts)
    (previous : Oid) (binding : VarBind) :
    Acceptable root { options with bulk } previous binding
      ↔ Acceptable root options previous binding := by
  rw [acceptable_iff, acceptable_iff]

/-- Whether a walk goes in bulk has no part in what is `accepted`. -/
theorem accepted_bulk (root : Oid) (options : WalkOptions) (bulk : Option BulkCounts)
    (previous : Oid) (bindings : List VarBind) :
    accepted root { options with bulk } previous bindings
      = accepted root options previous bindings := by
  simp only [accepted, acceptable_bulk]

theorem ending_bulk (root : Oid) (options : WalkOptions) (bulk : Option BulkCounts)
    (previous : Oid) (bindings : List VarBind) :
    ending root { options with bulk } previous bindings
      = ending root options previous bindings := by
  simp only [ending, rejected?, acceptable_bulk]

theorem reference_bulk (root : Oid) (options : WalkOptions) (bulk : Option BulkCounts)
    (previous : Oid) (bindings : List VarBind) :
    reference root { options with bulk } previous bindings
      = reference root options previous bindings := by
  rw [reference, reference, accepted_bulk, ending_bulk]

theorem resume_bulk (root : Oid) (options : WalkOptions) (bulk : Option BulkCounts)
    (previous : Oid) (found : Nat) (bindings : List VarBind) :
    resume root { options with bulk } previous found bindings
      = { resume root options previous found bindings with options := { options with bulk } } := by
  rw [resume, resume, accepted_bulk, ending_bulk]
  cases ending root options previous bindings <;> rfl

/-! ## Batch by batch -/

/-- Where an iteration goes on, it has found everything so far: all is `accepted`. -/
theorem accepted_of_goesOn (h : ending root options previous bindings = .goesOn) :
    accepted root options previous bindings = bindings := by
  induction bindings generalizing previous with
  | nil => rfl
  | cons binding bindings ih =>
    by_cases ok : Acceptable root options previous binding
    · rw [ending_cons ok] at h
      rw [accepted_cons ok, ih h]
    · rw [ending_cons_of_not ok] at h
      split at h
      case isTrue => cases h
      case isFalse =>
        split at h <;> cases h

/-- Where an iteration `goesOn`, it reports everything it received. -/
theorem reference_of_goesOn (h : ending root options previous bindings = .goesOn)
    (found : Nat) :
    reference root options previous bindings = bindings.map .ok ∧
    resume root options previous found bindings =
      iterating root options (lastOid previous bindings)
        (found + bindings.length) := by
  rw [reference, resume, accepted_of_goesOn h, h]
  exact ⟨List.append_nil _, rfl⟩

/-- Where an iteration stops, it reports what was `accepted` before. -/
theorem reference_of_stops (h : ending root options previous bindings = .stops)
    (found : Nat) :
    reference root options previous bindings = (accepted root options previous bindings).map .ok ∧
    resume root options previous found bindings =
      (iterating root options
        (lastOid previous (accepted root options previous bindings))
        (found + (accepted root options previous bindings).length)).endIteration := by
  rw [reference, resume, h]
  exact ⟨List.append_nil _, rfl⟩

/-- Bindings that come after the `ending` are not looked at. -/
theorem ended_append (h : ending root options previous bindings ≠ .goesOn) (more : List VarBind) :
    accepted root options previous (bindings ++ more) = accepted root options previous bindings ∧
    ending root options previous (bindings ++ more) = ending root options previous bindings := by
  induction bindings generalizing previous with
  | nil => exact absurd rfl h
  | cons binding bindings ih =>
    rw [List.cons_append]
    by_cases ok : Acceptable root options previous binding
    · rw [ending_cons ok] at h
      rw [accepted_cons ok, accepted_cons ok, ending_cons ok, ending_cons ok, (ih h).1, (ih h).2]
      exact ⟨rfl, rfl⟩
    · rw [accepted_cons_of_not ok, accepted_cons_of_not ok, ending_cons_of_not ok,
        ending_cons_of_not ok]
      exact ⟨rfl, rfl⟩

/-- `ended_append` in terms of what is reported and what is left of the walk. -/
theorem reference_append_of_ended (h : ending root options previous bindings ≠ .goesOn)
    (found : Nat) (more : List VarBind) :
    reference root options previous (bindings ++ more) = reference root options previous bindings ∧
    resume root options previous found (bindings ++ more)
      = resume root options previous found bindings := by
  obtain ⟨accepted, ending⟩ := ended_append h more
  constructor
  · rw [reference, reference, accepted, ending]
  · rw [resume, resume, accepted, ending]

/-- An iteration that `goesOn` does so from the last binding. -/
theorem reference_append (h : ending root options previous bindings = .goesOn) (found : Nat)
    (more : List VarBind) :
    reference root options previous (bindings ++ more) = bindings.map .ok ++
      reference root options (lastOid previous bindings) more ∧
    resume root options previous found (bindings ++ more) =
      resume root options (lastOid previous bindings)
        (found + bindings.length) more := by
  induction bindings generalizing previous found with
  | nil => exact ⟨rfl, rfl⟩
  | cons binding bindings ih =>
    -- had the first binding been rejected, not all would be accepted
    have ok : Acceptable root options previous binding := by
      by_contra notOk
      have all := accepted_of_goesOn h
      rw [accepted_cons_of_not notOk] at all
      cases all
    rw [ending_cons ok] at h
    obtain ⟨reports, left⟩ := ih h (found + 1)
    rw [List.cons_append, reference_cons ok, resume_cons ok, reports, left, List.map_cons,
      lastOid_cons, List.length_cons, Nat.add_right_comm, Nat.add_assoc]
    exact ⟨rfl, rfl⟩

end Walk

end SnmpManager
