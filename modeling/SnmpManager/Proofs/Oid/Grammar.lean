import SnmpManager.Proofs.Oid.Dotted

/-!
# Dotted decimal as a grammar

Which texts are dotted decimal, said without a reader: arcs in decimal with single dots between.
One more dot may stand in front. The reader takes exactly these texts, up to the limit on the
number of arcs.

- `Oid.Dotted`: arcs with single dots between.
- `Oid.arcs?_eq_some_iff`: what is cut apart at the dots and read arc by arc is `Dotted`.
- `Oid.parse_eq_ok_iff`: what `Oid.parse` takes, and what it answers.
-/

namespace SnmpManager.Oid

/-- Arcs in decimal, of 32 bits each, with single dots between. -/
inductive Dotted : List Char → List UInt32 → Prop where
  | last {part : List Char} {arc : UInt32} (number : Decimal.Denotes part arc.toNat) :
      Dotted part [arc]
  | cons {part rest : List Char} {arc : UInt32} {arcs : List UInt32}
      (number : Decimal.Denotes part arc.toNat) (more : Dotted rest arcs) :
      Dotted (part ++ '.' :: rest) (arc :: arcs)

/-! ## Arcs -/

/-- `arc?` reads what `Decimal.Denotes` says, up to the largest arc. -/
theorem arc?_eq_some_iff {part : List Char} {arc : UInt32} :
    arc? part = some arc ↔ Decimal.Denotes part arc.toNat := by
  rw [arc?, Option.bind_eq_some_iff, ← Decimal.nat?_eq_some_iff]
  constructor
  · rintro ⟨n, number, small⟩
    split at small
    case isTrue fits =>
      cases small
      rw [number, UInt32.toNat_ofNat_of_lt' fits]
    case isFalse => cases small
  · intro number
    exact ⟨arc.toNat, number, by rw [if_pos arc.toNat_lt, UInt32.ofNat_toNat]⟩

/-- `Dotted` text starts with a digit. -/
theorem Dotted.exists_digit {text : List Char} {arcs : List UInt32} (h : Dotted text arcs) :
    ∃ c rest, text = c :: rest ∧ c.isDigit = true := by
  cases h with
  | last number => exact number.exists_digit
  | cons number more =>
    obtain ⟨c, rest, rfl, digit⟩ := number.exists_digit
    exact ⟨c, _, rfl, digit⟩

theorem Dotted.ne_nil {text : List Char} {arcs : List UInt32} (h : Dotted text arcs) :
    arcs ≠ [] := by
  cases h with
  | last _ => exact List.cons_ne_nil _ _
  | cons _ _ => exact List.cons_ne_nil _ _

/-- By induction on the parts: what is read arc by arc is `Dotted` when it is put together with
dots. -/
theorem Dotted.of_mapM {parts : List (List Char)} (filled : parts ≠ []) {arcs : List UInt32}
    (h : parts.mapM arc? = some arcs) : Dotted (['.'].intercalate parts) arcs := by
  induction parts generalizing arcs with
  | nil => exact absurd rfl filled
  | cons part parts ih =>
    rw [List.mapM_cons] at h
    obtain ⟨arc, number, h⟩ := Option.bind_eq_some_iff.mp h
    obtain ⟨others, more, h⟩ := Option.bind_eq_some_iff.mp h
    cases h
    have number := arc?_eq_some_iff.mp number
    cases parts with
    | nil =>
      cases more
      rw [List.intercalate_singleton]
      exact .last number
    | cons next parts =>
      rw [List.intercalate_cons_cons, List.append_assoc, List.singleton_append]
      exact .cons number (ih (List.cons_ne_nil next parts) more)

/-- By induction on the grammar: `Dotted` text is cut apart at its dots, since no arc has one. -/
theorem Dotted.arcs? {text : List Char} {arcs : List UInt32} (h : Dotted text arcs) :
    arcs? text = some arcs := by
  induction h with
  | last number =>
    rw [Oid.arcs?, List.splitOn_eq_singleton (number.not_mem rfl), List.mapM_cons,
      arc?_eq_some_iff.mpr number]
    rfl
  | cons number _ ih =>
    rw [Oid.arcs?] at ih ⊢
    rw [List.splitOn_append_cons_self_of_not_mem (number.not_mem rfl), List.mapM_cons,
      arc?_eq_some_iff.mpr number, ih]
    rfl

/-- What is cut apart at the dots and read arc by arc is `Dotted`, and the other way round. -/
theorem arcs?_eq_some_iff {text : List Char} {arcs : List UInt32} :
    arcs? text = some arcs ↔ Dotted text arcs := by
  refine ⟨fun h => ?_, Dotted.arcs?⟩
  have whole : ['.'].intercalate (text.splitOn '.') = text := List.intercalate_splitOn '.'
  rw [← whole]
  exact .of_mapM (List.splitOn_ne_nil '.' text) h

/-! ## Paths -/

theorem dropDot_of_dotted {text : List Char} {arcs : List UInt32} (h : Dotted text arcs) :
    dropDot text = text := by
  obtain ⟨c, rest, rfl, digit⟩ := h.exists_digit
  rw [dropDot]
  rintro _ ⟨⟩
  exact absurd digit (by decide)

/-- With the dot in front dropped or without one, what is left is `Dotted`. -/
theorem dotted_dropDot_iff {text : List Char} {arcs : List UInt32} :
    Dotted (dropDot text) arcs ↔
      Dotted text arcs ∨ ∃ body, text = '.' :: body ∧ Dotted body arcs := by
  constructor
  · intro h
    unfold dropDot at h
    split at h
    case h_1 body => exact .inr ⟨body, rfl, h⟩
    case h_2 => exact .inl h
  · rintro (h | ⟨body, rfl, h⟩)
    · rw [dropDot_of_dotted h]
      exact h
    · exact h

/-- A text is read by `parse` as the arcs it spells, with at most one dot in front, unless these are
more than a path may have. -/
theorem parse_eq_ok_iff {text : String} {oid : Oid} :
    parse text = .ok oid ↔ Dotted (dropDot text.toList) oid.arcs ∧ oid.length ≤ maxArcs := by
  rw [parse]
  constructor
  · intro h
    split at h
    case isTrue => cases h
    case isFalse =>
      split at h
      case h_1 => cases h
      case h_2 arcs read =>
        split at h
        case h_1 => cases h
        case h_2 short =>
          cases h
          exact ⟨arcs?_eq_some_iff.mp read, (checkLength_eq_ok_iff _).mp short⟩
  · rintro ⟨dotted, short⟩
    obtain ⟨c, rest, written, -⟩ := dotted.exists_digit
    have filled : dropDot text.toList ≠ [] := written ▸ List.cons_ne_nil c rest
    simp only [if_neg filled, dotted.arcs?, (checkLength_eq_ok_iff oid).mpr short]

end SnmpManager.Oid
