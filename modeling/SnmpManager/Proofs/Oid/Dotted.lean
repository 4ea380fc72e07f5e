import SnmpManager.Oid.Text
import SnmpManager.Proofs.Text.Decimal

/-!
# Dotted decimal read back

`Oid.text` writes the arcs in decimal between dots. No arc has a dot of its own, so
the dots divide the text into the arcs again.

- `Oid.arc?_toDigits`, `Oid.arcs?_chars`: the arcs are read as they were written, however
  many there are.
- `Oid.parse_text`: a path of 1 to `Oid.maxArcs` arcs is read back from its text.
-/

namespace SnmpManager.Oid

/-! ## Arcs -/

theorem dot_not_mem_toDigits (n : Nat) : '.' ∉ Nat.toDigits 10 n :=
  fun mem => absurd (Decimal.isDigit_of_mem_toDigits mem) (by decide)

/-- An arc is read by `arc?` as it was written. -/
theorem arc?_toDigits (arc : UInt32) : arc? (Nat.toDigits 10 arc.toNat) = some arc := by
  rw [arc?, Decimal.nat?_toDigits, Option.bind_some, if_pos arc.toNat_lt, UInt32.ofNat_toNat]

theorem mapM_arc?_toDigits (arcs : List UInt32) :
    (arcs.map fun arc => Nat.toDigits 10 arc.toNat).mapM arc? = some arcs := by
  induction arcs with
  | nil => rfl
  | cons arc arcs ih =>
    rw [List.map_cons, List.mapM_cons, arc?_toDigits, ih]
    rfl

/-! ## Paths -/

variable {oid : Oid}

/-- The dots of `chars` divide its arcs, since no arc has one. -/
theorem splitOn_chars (filled : oid.arcs ≠ []) :
    oid.chars.splitOn '.' = oid.arcs.map fun arc => Nat.toDigits 10 arc.toNat := by
  refine List.splitOn_intercalate '.' ?_ fun none => filled (List.map_eq_nil_iff.mp none)
  rw [List.forall_mem_map]
  exact fun arc _ => dot_not_mem_toDigits arc.toNat

theorem arcs?_chars (filled : oid.arcs ≠ []) : arcs? oid.chars = some oid.arcs := by
  rw [arcs?, splitOn_chars filled, mapM_arc?_toDigits]

/-- A path with arcs starts with a digit, so `dropDot` leaves it alone. -/
theorem exists_digit_chars (filled : oid.arcs ≠ []) :
    ∃ c rest, oid.chars = c :: rest ∧ c.isDigit = true := by
  obtain ⟨arc, arcs, split⟩ := List.exists_cons_of_ne_nil filled
  obtain ⟨c, more, written, digit⟩ := Decimal.exists_digit_toDigits arc.toNat
  rw [chars, split, List.map_cons, written, List.intercalate_cons_cons_left]
  exact ⟨c, _, rfl, digit⟩

theorem dropDot_chars (filled : oid.arcs ≠ []) : dropDot oid.chars = oid.chars := by
  obtain ⟨c, rest, written, digit⟩ := exists_digit_chars filled
  rw [written, dropDot]
  rintro _ ⟨⟩
  exact absurd digit (by decide)

/-- A path is read back by `parse` from its `text`, if it has no more arcs than a path may have. -/
theorem parse_text (filled : oid.arcs ≠ []) (short : oid.length ≤ maxArcs) :
    parse oid.text = .ok oid := by
  obtain ⟨c, rest, written, -⟩ := exists_digit_chars filled
  have some : oid.chars ≠ [] := written ▸ List.cons_ne_nil c rest
  rw [parse, text, String.toList_ofList, dropDot_chars filled]
  simp only [if_neg some, arcs?_chars filled, (checkLength_eq_ok_iff oid).mpr short]

end SnmpManager.Oid
