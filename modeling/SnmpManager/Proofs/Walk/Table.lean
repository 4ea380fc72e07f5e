import SnmpManager.Proofs.Walk.Reference

/-!
# Tables of objects

What an agent has, and what it says when it is asked about it.

- `Table`: finitely many objects with a value each, in the order of the tree.
- `Table.get`, `Table.next`: the answers about an object and about what follows it.
- `Table.row`: what follows, then what follows that, and so on.
- `Table.upcoming`: all that follows an object.
- `InScope`, `Table.scope`: what a walk is about, and how much of it is ahead.

The bindings of a row that are found are those in scope, and a row whose
bindings are all found brings the walk as much further (`Table.scan_row`).
-/

namespace SnmpManager

/-- Objects with their values, in the order of the tree. -/
structure Table where
  entries : List VarBind
  ascending : entries.Pairwise fun a b => a.oid < b.oid
  isValue : ∀ entry ∈ entries, entry.value.isException = false

/-- What a walk is about: the objects strictly under the root, up to the bound. -/
structure InScope (root : Oid) (options : WalkOptions) (binding : VarBind) : Prop where
  below : ∃ suffix, suffix ≠ [] ∧ binding.oid = root.extend suffix
  bounded : ∀ bound ∈ options.bound, binding.oid < bound

theorem inScope_iff (root : Oid) (options : WalkOptions) (binding : VarBind) :
    InScope root options binding ↔
      root.isBelow binding.oid = true ∧ ∀ bound ∈ options.bound, binding.oid < bound := by
  rw [Oid.isBelow_iff]
  exact ⟨fun ⟨below, bounded⟩ => ⟨below, bounded⟩, fun ⟨below, bounded⟩ => ⟨below, bounded⟩⟩

instance (root : Oid) (options : WalkOptions) (binding : VarBind) :
    Decidable (InScope root options binding) :=
  decidable_of_iff' _ (inScope_iff root options binding)

namespace Table

variable (table : Table)

/-- The object, or that there is none. -/
def get (oid : Oid) : VarBind :=
  (table.entries.find? fun entry => entry.oid = oid).getD ⟨oid, .noSuchObject⟩

/-- The first object after another, or that there is none. -/
def next (oid : Oid) : VarBind :=
  (table.entries.find? fun entry => oid < entry.oid).getD ⟨oid, .endOfMibView⟩

/-- The first objects after another, one after another. -/
def row (oid : Oid) : (count : Nat) → List VarBind
  | 0 => []
  | count + 1 => table.next oid :: row (table.next oid).oid count

/-- All objects after another. -/
def upcoming (oid : Oid) : List VarBind :=
  table.entries.filter fun entry => oid < entry.oid

/-- The objects after another up to the first that is not in scope. -/
def scope (root : Oid) (options : WalkOptions) (oid : Oid) : List VarBind :=
  (table.upcoming oid).takeWhile fun entry => InScope root options entry

variable {table}

/-! ## What follows -/

theorem upcoming_subset (oid : Oid) : ∀ entry ∈ table.upcoming oid, entry ∈ table.entries :=
  fun _ mem => (List.mem_filter.mp mem).1

theorem next_of_nil {oid : Oid} (h : table.upcoming oid = []) :
    table.next oid = ⟨oid, .endOfMibView⟩ := by
  rw [next, ← List.head?_filter, ← upcoming, h]
  rfl

/-- What `next` says is the first of what is `upcoming`. -/
theorem next_of_cons {oid : Oid} {entry : VarBind} {rest : List VarBind}
    (h : table.upcoming oid = entry :: rest) : table.next oid = entry := by
  rw [next, ← List.head?_filter, ← upcoming, h]
  rfl

/-- After the first object that is `upcoming` come the others. -/
theorem upcoming_of_cons {oid : Oid} {entry : VarBind} {rest : List VarBind}
    (h : table.upcoming oid = entry :: rest) :
    oid < entry.oid ∧ table.upcoming entry.oid = rest := by
  have mem : entry ∈ table.upcoming oid := by
    rw [h]
    exact List.mem_cons_self
  have after : oid < entry.oid := by simpa using (List.mem_filter.mp mem).2
  have ascending := table.ascending.filter fun entry => decide (oid < entry.oid)
  rw [← upcoming, h, List.pairwise_cons] at ascending
  refine ⟨after, ?_⟩
  have twice : table.upcoming entry.oid
      = (table.upcoming oid).filter fun other => entry.oid < other.oid := by
    rw [upcoming, upcoming, List.filter_filter]
    refine List.filter_congr fun other _ => ?_
    by_cases later : entry.oid < other.oid
    · simp [later, lt_trans after later]
    · simp [later]
  -- of what is after the cursor, only the entry itself is not after the entry
  rw [twice, h, List.filter_cons_of_neg (by simp), List.filter_eq_self]
  intro other later
  simpa using ascending.1 other later

/-! ## What a walk finds -/

variable {root : Oid} {options : WalkOptions}

/-- What follows an object is `Acceptable` to a walk exactly if it is `InScope`: the table is in
order and holds values only. -/
theorem acceptable_iff_inScope {oid : Oid} {entry : VarBind} {rest : List VarBind}
    (h : table.upcoming oid = entry :: rest) :
    Walk.Acceptable root options oid entry ↔ InScope root options entry := by
  have after := (upcoming_of_cons h).1
  have mem := upcoming_subset oid entry (h ▸ List.mem_cons_self)
  constructor
  · intro ok
    exact ⟨ok.below, ok.bounded⟩
  · intro ok
    exact ⟨table.isValue entry mem, ne_of_gt after, fun _ => lt_asymm after, ok.below, ok.bounded⟩

theorem not_acceptable_endOfMibView (oid : Oid) :
    ¬ Walk.Acceptable root options oid ⟨oid, .endOfMibView⟩ :=
  fun ok => by cases ok.isValue

/-- By induction on the length of the row: a `row` either holds all that is in scope and ends the
walk, or brings it further. -/
theorem scan_row (table : Table) (root : Oid) (options : WalkOptions) (oid : Oid)
    (count : Nat) :
    (Walk.ending root options oid (table.row oid count) = .stops ∧
      Walk.accepted root options oid (table.row oid count) = table.scope root options oid) ∨
    (Walk.ending root options oid (table.row oid count) = .goesOn ∧
      let last := Walk.lastOid oid (table.row oid count)
      table.scope root options oid = table.row oid count ++ table.scope root options last ∧
      (table.upcoming last).length + count = (table.upcoming oid).length) := by
  -- along the row the cursor moves, and what is upcoming loses one object a step
  induction count generalizing oid with
  | zero => exact .inr ⟨rfl, rfl, rfl⟩
  | succ count ih =>
    rw [row]
    cases h : table.upcoming oid with
    | nil =>
      rw [next_of_nil h, Walk.ending_cons_of_not (not_acceptable_endOfMibView oid),
        Walk.accepted_cons_of_not (not_acceptable_endOfMibView oid), scope, h]
      exact .inl ⟨rfl, rfl⟩
    | cons entry rest =>
      obtain ⟨after, others⟩ := upcoming_of_cons h
      rw [next_of_cons h]
      by_cases inScope : InScope root options entry
      · have ok := (acceptable_iff_inScope h).mpr inScope
        have ahead : table.scope root options oid
            = entry :: table.scope root options entry.oid := by
          rw [scope, h, List.takeWhile_cons_of_pos (by simpa using inScope), scope, others]
        rw [Walk.ending_cons ok, Walk.accepted_cons ok, ahead, Walk.lastOid_cons]
        rcases ih entry.oid with ⟨stops, found⟩ | ⟨goesOn, found, further⟩
        · exact .inl ⟨stops, by rw [found]⟩
        · refine .inr ⟨goesOn, by rw [found, List.cons_append], ?_⟩
          rw [others] at further
          rw [List.length_cons]
          omega
      · have rejected : ¬ Walk.Acceptable root options oid entry :=
          fun ok => inScope ((acceptable_iff_inScope h).mp ok)
        have plain := table.isValue entry (upcoming_subset oid entry (h ▸ List.mem_cons_self))
        rw [Walk.ending_cons_of_not rejected, Walk.accepted_cons_of_not rejected, scope, h,
          List.takeWhile_cons_of_neg (by simpa using inScope), plain, if_neg Bool.false_ne_true,
          if_neg fun decreases => lt_asymm after decreases.2]
        exact .inl ⟨rfl, rfl⟩

/-- A `row` whose bindings are all found ends at an object of the table, if not where it began. -/
theorem last_row_mem {oid : Oid} {count : Nat}
    (h : Walk.ending root options oid (table.row oid count) = .goesOn) :
    let last := Walk.lastOid oid (table.row oid count)
    last = oid ∨ ∃ entry ∈ table.entries, entry.oid = last := by
  rcases scan_row table root options oid count with
    ⟨stops, -⟩ | ⟨-, found, -⟩
  · rw [stops] at h
    cases h
  · rcases List.mem_cons.mp (List.getLastD_mem_cons (l := (table.row oid count).map VarBind.oid)
      (a := oid)) with same | mem
    · exact .inl same
    · obtain ⟨entry, inRow, isLast⟩ := List.mem_map.mp mem
      have inScope : entry ∈ table.scope root options oid := by
        rw [found]
        exact List.mem_append_left _ inRow
      exact .inr ⟨entry, upcoming_subset oid entry (List.takeWhile_subset _ inScope), isLast⟩

/-- The `scope` after the root is all that is in scope, since a subtree is a segment of the
order. -/
theorem scope_root (table : Table) (root : Oid) (options : WalkOptions) :
    table.scope root options root
      = table.entries.filter fun entry => InScope root options entry := by
  -- after the root, what is before an object in scope is in scope
  have closed : (table.upcoming root).Pairwise fun a b =>
      decide (InScope root options b) = true → decide (InScope root options a) = true := by
    refine List.Pairwise.imp_of_mem ?_ (table.ascending.filter _)
    intro a b memA memB before
    have after : root < a.oid := by simpa using (List.mem_filter.mp memA).2
    rw [decide_eq_true_iff, decide_eq_true_iff, inScope_iff, inScope_iff]
    rintro ⟨below, bounded⟩
    exact ⟨Oid.isBelow_of_lt_of_lt after before below,
      fun bound isBound => lt_trans before (bounded bound isBound)⟩
  rw [scope, Oid.takeWhile_eq_filter closed, upcoming, List.filter_filter]
  refine List.filter_congr fun entry _ => ?_
  by_cases inScope : InScope root options entry
  · have after := Oid.lt_of_isBelow ((inScope_iff ..).mp inScope).1
    simp [inScope, after]
  · simp [inScope]

end Table

end SnmpManager
