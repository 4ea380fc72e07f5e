import SnmpManager.Text.Split

/-!
# Where a text is cut

A cut at a separator is decided by what it leaves: the first cut leaves no separator before it,
the last one none after it, and a text that is not cut has none at all.

- `Text.splitFirst?_eq_some_iff`, `Text.splitFirst?_eq_none_iff`: the first cut.
- `Text.splitLast?_eq_some_iff`: the last cut.
-/

namespace SnmpManager.Text

variable {sep : Char} {text before after : List Char}

/-! ## The first cut -/

theorem splitFirst?_eq_none_iff : splitFirst? sep text = none ↔ sep ∉ text := by
  refine ⟨fun h => ?_, splitFirst?_eq_none⟩
  induction text with
  | nil => exact List.not_mem_nil
  | cons c text ih =>
    rw [splitFirst?] at h
    split at h
    case isTrue => cases h
    case isFalse other =>
      rw [List.mem_cons, not_or]
      exact ⟨Ne.symm other, ih (Option.map_eq_none_iff.mp h)⟩

/-- `splitFirst?` cuts where no separator stands before the cut. -/
theorem splitFirst?_eq_some_iff :
    splitFirst? sep text = some (before, after) ↔ text = before ++ sep :: after ∧ sep ∉ before := by
  constructor
  · intro h
    induction text generalizing before with
    | nil => cases h
    | cons c text ih =>
      rw [splitFirst?] at h
      split at h
      case isTrue same =>
        cases h
        exact ⟨by rw [same, List.nil_append], List.not_mem_nil⟩
      -- this character is before the cut that is made in the rest
      case isFalse other =>
        obtain ⟨⟨start, rest⟩, cut, h⟩ := Option.map_eq_some_iff.mp h
        cases h
        obtain ⟨rfl, plain⟩ := ih cut
        exact ⟨rfl, fun mem => (List.mem_cons.mp mem).elim (Ne.symm other) plain⟩
  · rintro ⟨rfl, plain⟩
    exact splitFirst?_append plain after

/-- Two texts that are cut are alike only if their parts are. -/
theorem append_cons_inj {before' after' : List Char} (h : sep ∉ before) (h' : sep ∉ before')
    (same : before ++ sep :: after = before' ++ sep :: after') :
    before = before' ∧ after = after' := by
  have cut := splitFirst?_append h after
  rw [same, splitFirst?_append h' after'] at cut
  cases cut
  exact ⟨rfl, rfl⟩

/-! ## The last cut -/

theorem splitLast?_eq_none (h : sep ∉ text) : splitLast? sep text = none := by
  induction text with
  | nil => rfl
  | cons c text ih =>
    rw [List.mem_cons, not_or] at h
    rw [splitLast?, ih h.2]
    exact if_neg (Ne.symm h.1)

/-- `splitLast?` finds the last cut, whatever stands before it. -/
theorem splitLast?_append (h : sep ∉ after) (before : List Char) :
    splitLast? sep (before ++ sep :: after) = some (before, after) := by
  induction before with
  | nil =>
    rw [List.nil_append, splitLast?, splitLast?_eq_none h]
    exact if_pos rfl
  | cons c before ih => rw [List.cons_append, splitLast?, ih]

theorem not_mem_of_splitLast?_eq_none (h : splitLast? sep text = none) : sep ∉ text := by
  induction text with
  | nil => exact List.not_mem_nil
  | cons c text ih =>
    rw [splitLast?] at h
    split at h
    case h_1 => cases h
    case h_2 later =>
      split at h
      case isTrue => cases h
      case isFalse other =>
        rw [List.mem_cons, not_or]
        exact ⟨Ne.symm other, ih later⟩

/-- `splitLast?` cuts where no separator is left after the cut. -/
theorem splitLast?_eq_some_iff :
    splitLast? sep text = some (before, after) ↔ text = before ++ sep :: after ∧ sep ∉ after := by
  constructor
  · intro h
    induction text generalizing before with
    | nil => cases h
    | cons c text ih =>
      rw [splitLast?] at h
      split at h
      case h_1 start rest cut =>
        cases h
        obtain ⟨rfl, plain⟩ := ih cut
        exact ⟨rfl, plain⟩
      -- no cut in the rest: the last separator is this character or none
      case h_2 later =>
        split at h
        case isTrue same =>
          cases h
          exact ⟨by rw [same, List.nil_append], not_mem_of_splitLast?_eq_none later⟩
        case isFalse => cases h
  · rintro ⟨rfl, plain⟩
    exact splitLast?_append plain before

end SnmpManager.Text
