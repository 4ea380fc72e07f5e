import Mathlib.Data.List.Lex
import SnmpManager.Oid.Basic

/-!
# The order of the object tree

`Oid.compare` is a linear order: the lexicographic one on arcs as numbers
(`Oid.lt_iff_key`). Under it a subtree is a segment that starts right after its
root (`Oid.isBelow_of_lt_of_lt`). So of an ascending enumeration the subtree is the
first run after the root, and nothing of it comes later (`Oid.subtree_contiguous`).
-/

namespace SnmpManager

namespace Oid

/-! ## A linear order -/

/-- The arcs as numbers, in which lists are ordered lexicographically. -/
def key (oid : Oid) : List ℕ :=
  oid.arcs.map UInt32.toNat

theorem key_injective : Function.Injective key := by
  intro a b h
  have arcs : a.arcs = b.arcs :=
    List.map_injective_iff.mpr (fun _ _ => UInt32.toNat_inj.mp) h
  cases a
  cases b
  exact congrArg Oid.mk arcs

/-- By induction on both lists: `compareArcs` is the lexicographic order of the arcs as numbers, a
front being less than what goes on from it. -/
theorem compareArcs_lt_iff (as bs : List UInt32) :
    compareArcs as bs = .lt ↔ as.map UInt32.toNat < bs.map UInt32.toNat := by
  induction as generalizing bs with
  | nil => cases bs <;> simp [compareArcs]
  | cons a as ih =>
    cases bs with
    | nil => simp [compareArcs]
    | cons b bs =>
      have same : a.toNat = b.toNat ↔ a = b := UInt32.toNat_inj
      rw [List.map_cons, List.map_cons, List.cons_lt_cons_iff, ← UInt32.lt_iff_toNat_lt, same,
        compareArcs]
      split
      case isTrue less => simp [less]
      case isFalse notLess =>
        split
        case isTrue greater =>
          have different : a ≠ b := by
            rintro rfl
            exact notLess greater
          simp [notLess, different]
        case isFalse notGreater =>
          -- neither less nor greater, so the next arcs decide
          have equal : a = b := UInt32.le_antisymm (UInt32.not_lt.mp notGreater)
            (UInt32.not_lt.mp notLess)
          simp [equal, ih]

/-- `compareArcs` the other way round has the other outcome. -/
theorem compareArcs_swap (as bs : List UInt32) :
    (compareArcs as bs).swap = compareArcs bs as := by
  induction as generalizing bs with
  | nil => cases bs <;> rfl
  | cons a as ih =>
    cases bs with
    | nil => rfl
    | cons b bs =>
      rw [compareArcs, compareArcs, ← ih]
      by_cases less : a < b
      · rw [if_pos less, if_neg (UInt32.lt_asymm less), if_pos less]
        rfl
      · rw [if_neg less, if_neg less]
        split <;> rfl

/-- `Oid.compare` through `key`, from which the laws of the order are taken over. -/
theorem lt_iff_key (a b : Oid) : a < b ↔ a.key < b.key :=
  compareArcs_lt_iff a.arcs b.arcs

theorem le_iff_key (a b : Oid) : a ≤ b ↔ a.key ≤ b.key := by
  show compareArcs a.arcs b.arcs ≠ .gt ↔ _
  rw [← compareArcs_swap, Ne, Ordering.swap_eq_gt, compareArcs_lt_iff]
  exact not_lt

instance : LinearOrder Oid where
  le_refl a := (le_iff_key a a).mpr (le_refl _)
  le_trans a b c := by
    simp only [le_iff_key]
    exact le_trans
  le_antisymm a b ab ba :=
    key_injective (le_antisymm ((le_iff_key a b).mp ab) ((le_iff_key b a).mp ba))
  le_total a b := by
    simp only [le_iff_key]
    exact le_total _ _
  lt_iff_le_not_ge a b := by
    simp only [le_iff_key, lt_iff_key]
    exact lt_iff_le_not_ge
  toDecidableLE := inferInstance
  toDecidableLT := inferInstance
  toDecidableEq := inferInstance
  compare_eq_compareOfLessAndEq a b := by
    have less := lt_iff_key a b
    rw [compareOfLessAndEq]
    split
    case isTrue lt => exact lt
    case isFalse notLess =>
      split
      case isTrue equal =>
        rw [equal]
        exact compareArcs_self b.arcs
      case isFalse different =>
        have greater : b.key < a.key :=
          lt_of_le_of_ne (not_lt.mp fun h => notLess (less.mpr h)) fun h =>
            different (key_injective h.symm)
        show compareArcs a.arcs b.arcs = .gt
        rw [← compareArcs_swap, Ordering.swap_eq_gt]
        exact (lt_iff_key b a).mpr greater

/-! ## Subtrees -/

/-- A path comes before what `extend` makes of it. -/
theorem lt_extend (oid : Oid) {suffix : List UInt32} (proper : suffix ≠ []) :
    oid < oid.extend suffix := by
  obtain ⟨arcs⟩ := oid
  show compareArcs arcs (arcs ++ suffix) = .lt
  induction arcs with
  | nil =>
    cases suffix with
    | nil => exact absurd rfl proper
    | cons arc rest => rfl
  | cons arc arcs ih =>
    rw [List.cons_append, compareArcs, if_neg (UInt32.lt_irrefl arc)]
    simpa using ih

/-- `isBelow` holds of the proper extensions of the root. -/
theorem isBelow_iff (root oid : Oid) :
    root.isBelow oid = true ↔ ∃ suffix, suffix ≠ [] ∧ oid = root.extend suffix := by
  have starts : oid.startsWith root = true ↔ ∃ suffix, oid = root.extend suffix := by
    rw [startsWith_iff]
    constructor
    · rintro ⟨suffix, arcs⟩
      exact ⟨suffix, congrArg Oid.mk arcs.symm⟩
    · rintro ⟨suffix, rfl⟩
      exact ⟨suffix, rfl⟩
  rw [isBelow, Bool.and_eq_true, beq_iff_eq, starts]
  constructor
  · rintro ⟨less, suffix, rfl⟩
    refine ⟨suffix, ?_, rfl⟩
    rintro rfl
    have self : root < root.extend [] := less
    rw [extend, List.append_nil] at self
    exact lt_irrefl root self
  · rintro ⟨suffix, proper, rfl⟩
    exact ⟨lt_extend root proper, suffix, rfl⟩

theorem lt_of_isBelow {root oid : Oid} (h : root.isBelow oid = true) : root < oid := by
  obtain ⟨suffix, proper, rfl⟩ := (isBelow_iff root oid).mp h
  exact lt_extend root proper

/-- By induction on the root: between it and something that goes on from it, the arcs of the root
are all in front. -/
theorem isPrefix_of_between {root arcs suffix : List UInt32}
    (after : compareArcs root arcs = .lt) (before : compareArcs arcs (root ++ suffix) = .lt) :
    root <+: arcs := by
  induction root generalizing arcs with
  | nil => exact List.nil_prefix
  -- arcs that differ from the root's before it ends are on the wrong side of one of the two
  | cons a root ih =>
    cases arcs with
    | nil => cases after
    | cons b arcs =>
      rw [List.cons_append] at before
      rw [compareArcs] at after before
      by_cases less : a < b
      · rw [if_neg (UInt32.lt_asymm less), if_pos less] at before
        cases before
      · rw [if_neg less] at after before
        by_cases greater : b < a
        · rw [if_pos greater] at after
          cases after
        · rw [if_neg greater] at after before
          have equal : a = b :=
            UInt32.le_antisymm (UInt32.not_lt.mp greater) (UInt32.not_lt.mp less)
          rw [equal, List.cons_prefix_cons]
          exact ⟨rfl, ih after before⟩

/-- What comes after a root and before some path that `isBelow` it is below it too. -/
theorem isBelow_of_lt_of_lt {root a b : Oid} (after : root < a) (before : a < b)
    (h : root.isBelow b = true) : root.isBelow a = true := by
  obtain ⟨suffix, -, rfl⟩ := (isBelow_iff root b).mp h
  rw [isBelow, Bool.and_eq_true, beq_iff_eq, startsWith_iff]
  exact ⟨after, isPrefix_of_between after before⟩

/-- Between two paths of a root's branch, the root itself included, there are only such paths, by
`isBelow_of_lt_of_lt`. -/
theorem branch_of_between {root a b c : Oid} (ab : a ≤ b) (bc : b ≤ c)
    (ha : a = root ∨ root.isBelow a = true) (hc : c = root ∨ root.isBelow c = true) :
    b = root ∨ root.isBelow b = true := by
  have after : root ≤ b := by
    rcases ha with rfl | below
    · exact ab
    · exact le_trans (le_of_lt (lt_of_isBelow below)) ab
  rcases eq_or_lt_of_le after with same | strictlyAfter
  · exact .inl same.symm
  rcases hc with rfl | below
  · exact absurd strictlyAfter (not_lt.mpr bc)
  rcases eq_or_lt_of_le bc with rfl | before
  · exact .inr below
  · exact .inr (isBelow_of_lt_of_lt strictlyAfter before below)

/-- What comes after a root and is not `isBelow` it comes after all of the subtree. -/
theorem lt_of_not_isBelow {root outside oid : Oid} (after : root < outside)
    (out : root.isBelow outside = false) (below : root.isBelow oid = true) : oid < outside := by
  by_contra notBefore
  have reached : outside ≤ oid := not_lt.mp notBefore
  rcases branch_of_between (le_of_lt after) reached (.inl rfl) (.inr below) with rfl | inside
  · exact lt_irrefl outside after
  · rw [out] at inside
    cases inside

/-! ## Enumerations -/

/-- Of a list on which a condition does not come back, the front that fulfils it is all that
does. -/
theorem takeWhile_eq_filter {α : Type} {p : α → Bool} {list : List α}
    (closed : list.Pairwise fun a b => p b = true → p a = true) :
    list.takeWhile p = list.filter p := by
  induction list with
  | nil => rfl
  | cons a rest ih =>
    rw [List.pairwise_cons] at closed
    by_cases holds : p a = true
    · rw [List.takeWhile_cons_of_pos holds, List.filter_cons_of_pos holds, ih closed.2]
    · rw [List.takeWhile_cons_of_neg holds, List.filter_cons_of_neg holds, eq_comm,
        List.filter_eq_nil_iff]
      exact fun b mem later => holds (closed.1 b mem later)

/-- The subtree is the first run after the root in an ascending enumeration, by
`takeWhile_eq_filter`. -/
theorem takeWhile_isBelow (root : Oid) {oids : List Oid} (ascending : oids.Pairwise (· ≤ ·)) :
    (oids.dropWhile (· ≤ root)).takeWhile root.isBelow = oids.filter root.isBelow := by
  induction oids with
  | nil => rfl
  | cons oid rest ih =>
    by_cases before : oid ≤ root
    · have outside : ¬ root.isBelow oid = true :=
        fun below => absurd (lt_of_isBelow below) (not_lt.mpr before)
      rw [List.dropWhile_cons_of_pos (by simpa using before), List.filter_cons_of_neg outside,
        ih ascending.of_cons]
    · -- from here on everything comes after the root, and what leaves the subtree is past it
      rw [List.dropWhile_cons_of_neg (by simpa using before)]
      refine takeWhile_eq_filter (ascending.imp_of_mem ?_)
      intro a b memA _ ab below
      have after : root < a := by
        rcases List.mem_cons.mp memA with rfl | later
        · exact not_le.mp before
        · exact lt_of_lt_of_le (not_le.mp before) (List.rel_of_pairwise_cons ascending later)
      by_contra out
      exact absurd (lt_of_not_isBelow after (Bool.eq_false_iff.mpr out) below) (not_lt.mpr ab)

/-- The order of `Oid.compare` is strict, total and agrees with equality; a subtree holds what goes
on from its root by an arc or more, and is a segment of the order. So of any ascending enumeration
it is the first run after the root. -/
theorem subtree_contiguous :
    (∀ a b : Oid, a.compare b = .eq ↔ a = b) ∧
    (∀ a b : Oid, (a.compare b).swap = b.compare a) ∧
    (∀ a b c : Oid, a.compare b = .lt → b.compare c = .lt → a.compare c = .lt) ∧
    (∀ root oid : Oid, root.isBelow oid = true ↔
      ∃ arc suffix, oid.arcs = root.arcs ++ arc :: suffix) ∧
    (∀ root a b c : Oid, a ≤ b → b ≤ c → (a = root ∨ root.isBelow a = true) →
      (c = root ∨ root.isBelow c = true) → b = root ∨ root.isBelow b = true) ∧
    (∀ root outside : Oid, root < outside → root.isBelow outside = false →
      ∀ oid, root.isBelow oid = true → oid < outside) ∧
    ∀ (root : Oid) (oids : List Oid), oids.Pairwise (· ≤ ·) →
      (oids.dropWhile (· ≤ root)).takeWhile root.isBelow = oids.filter root.isBelow := by
  refine ⟨?_, ?_, ?_, ?_, ?_, ?_, ?_⟩
  · intro a b
    show Ord.compare a b = .eq ↔ a = b
    exact compare_eq_iff_eq
  · intro a b
    exact compareArcs_swap a.arcs b.arcs
  · intro a b c ab bc
    -- the laws are those of the instance, whose order is `Oid.compare`
    exact lt_trans (show a < b from ab) bc
  · intro root oid
    rw [isBelow_iff]
    constructor
    · rintro ⟨suffix, proper, rfl⟩
      obtain ⟨arc, rest, rfl⟩ := List.exists_cons_of_ne_nil proper
      exact ⟨arc, rest, rfl⟩
    · rintro ⟨arc, rest, arcs⟩
      exact ⟨arc :: rest, List.cons_ne_nil _ _, congrArg Oid.mk arcs⟩
  · intro root a b c ab bc ha hc
    exact branch_of_between ab bc ha hc
  · intro root outside after out oid below
    exact lt_of_not_isBelow after out below
  · intro root oids ascending
    exact takeWhile_isBelow root ascending

/-- A subtree between paths on both sides of it, the last of them below a sibling whose arc has
more digits. -/
theorem subtree_contiguous_siblings :
    let root : Oid := ⟨[1, 3, 9]⟩
    let oids : List Oid := [⟨[1, 3]⟩, ⟨[1, 3, 8, 4294967295]⟩, ⟨[1, 3, 9]⟩, ⟨[1, 3, 9, 0]⟩,
      ⟨[1, 3, 9, 0, 7]⟩, ⟨[1, 3, 9, 4294967295]⟩, ⟨[1, 3, 10]⟩, ⟨[1, 3, 10, 9]⟩]
    root.compare ⟨[1, 3, 10]⟩ = .lt ∧
    (∀ oid, root.isBelow oid = true → oid < ⟨[1, 3, 10]⟩) ∧
    root.isBelow ⟨[1, 3, 9, 0, 7]⟩ = true ∧
    (oids.dropWhile (· ≤ root)).takeWhile root.isBelow = oids.filter root.isBelow ∧
    oids.filter root.isBelow = [⟨[1, 3, 9, 0]⟩, ⟨[1, 3, 9, 0, 7]⟩, ⟨[1, 3, 9, 4294967295]⟩] := by
  intro root oids
  obtain ⟨-, -, transitive, -, between, past, run⟩ := subtree_contiguous
  have after := transitive root ⟨[1, 3, 9, 0]⟩ ⟨[1, 3, 10]⟩ rfl rfl
  refine ⟨after, past root ⟨[1, 3, 10]⟩ after rfl, ?_, run root oids (by decide), by decide⟩
  have inside := between root ⟨[1, 3, 9, 0]⟩ ⟨[1, 3, 9, 0, 7]⟩ ⟨[1, 3, 9, 1]⟩ (by decide)
    (by decide) (.inr rfl) (.inr rfl)
  exact inside.resolve_left (by decide)

end Oid

end SnmpManager
