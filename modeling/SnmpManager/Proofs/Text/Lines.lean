import SnmpManager.Proofs.Text.Decimal
import SnmpManager.Proofs.Text.Hex
import SnmpManager.Proofs.Text.Utf8

/-!
# Lines of text

Text is divided into lines by its line feeds. Numbers and hex have none, and octets that
are read as text have as many as there are octets `0x0A` among them, however ill-formed
the rest is (`Utf8.count_decodeLossy`).

- `lineFeeds`: how many line feeds a text has. It adds up over what a text is put together
  from.
- `splitOn_lines`, `count_lines`: lines that each end with a line feed, and have none before it.
-/

namespace SnmpManager

/-- How many line feeds there are in a text. -/
def lineFeeds (text : String) : Nat :=
  text.toList.count '\n'

@[simp] theorem lineFeeds_append (first second : String) :
    lineFeeds (first ++ second) = lineFeeds first + lineFeeds second := by
  rw [lineFeeds, String.toList_append, List.count_append]
  rfl

@[simp] theorem lineFeeds_ofList (chars : List Char) :
    lineFeeds (String.ofList chars) = chars.count '\n' := by
  rw [lineFeeds, String.toList_ofList]

theorem lineFeeds_join (texts : List String) :
    lineFeeds (String.join texts) = (texts.map lineFeeds).sum := by
  induction texts with
  | nil => rfl
  | cons text texts ih => rw [String.join_cons, lineFeeds_append, ih, List.map_cons, List.sum_cons]

/-- Lines that each end with a line feed, and have none before it, are what is between the line
feeds. -/
theorem splitOn_lines {lines : List (List Char)} (h : ∀ line ∈ lines, '\n' ∉ line) :
    (lines.flatMap (· ++ ['\n'])).splitOn '\n' = lines ++ [[]] := by
  induction lines with
  | nil => rfl
  | cons line lines ih =>
    obtain ⟨first, rest⟩ := List.forall_mem_cons.mp h
    rw [List.flatMap_cons, List.append_assoc, List.singleton_append,
      List.splitOn_append_cons_self_of_not_mem first, ih rest]
    rfl

/-- Such lines have as many line feeds as they are. -/
theorem count_lines {lines : List (List Char)} (h : ∀ line ∈ lines, '\n' ∉ line) :
    (lines.flatMap (· ++ ['\n'])).count '\n' = lines.length := by
  induction lines with
  | nil => rfl
  | cons line lines ih =>
    obtain ⟨first, rest⟩ := List.forall_mem_cons.mp h
    rw [List.flatMap_cons, List.count_append, List.count_append, ih rest,
      List.count_eq_zero.mpr first, List.length_cons, Nat.zero_add]
    exact Nat.add_comm 1 lines.length

/-! ## Numbers -/

theorem count_toDigits (n : Nat) : (Nat.toDigits 10 n).count '\n' = 0 :=
  List.count_eq_zero.mpr fun mem => absurd (Decimal.isDigit_of_mem_toDigits mem) (by decide)

@[simp] theorem lineFeeds_nat (n : Nat) : lineFeeds (toString n) = 0 := by
  rw [Nat.toString_eq_ofList_toDigits, lineFeeds_ofList, count_toDigits]

/-- A number is written with digits and at most a sign, so `lineFeeds` finds none. -/
@[simp] theorem lineFeeds_int (n : Int) : lineFeeds (toString n) = 0 := by
  cases n with
  | ofNat n => exact lineFeeds_nat n
  | negSucc n =>
    show lineFeeds ("-" ++ toString (n + 1)) = 0
    rw [lineFeeds_append, lineFeeds_nat]
    rfl

@[simp] theorem lineFeeds_padded (width n : Nat) : lineFeeds (Decimal.padded width n) = 0 := by
  rw [Decimal.padded, lineFeeds_ofList, List.count_append, count_toDigits, List.count_replicate]
  rfl

/-! ## Hex -/

/-- What is in none of the parts, and does not separate them, is not in the whole. -/
theorem not_mem_intercalate {c separator : Char} (h : c ≠ separator) {parts : List (List Char)}
    (h' : ∀ part ∈ parts, c ∉ part) : c ∉ [separator].intercalate parts := by
  induction parts with
  | nil => exact List.not_mem_nil
  | cons part parts ih =>
    obtain ⟨first, rest⟩ := List.forall_mem_cons.mp h'
    cases parts with
    | nil => rwa [List.intercalate_singleton]
    | cons next parts =>
      rw [List.intercalate_cons_of_ne_nil (List.cons_ne_nil _ _)]
      simp only [List.mem_append, List.mem_singleton, not_or]
      exact ⟨⟨first, h⟩, ih rest⟩

@[simp] theorem lineFeeds_upperHex (content : Octets) : lineFeeds content.upperHex = 0 := by
  rw [Octets.upperHex, lineFeeds_ofList, List.count_eq_zero]
  refine not_mem_intercalate (by decide) fun part mem => ?_
  obtain ⟨b, -, rfl⟩ := List.mem_map.mp mem
  exact Octets.not_mem_hexPair (.inl rfl) (by decide) b

@[simp] theorem lineFeeds_upperHexByte (b : UInt8) : lineFeeds (Octets.upperHexByte b) = 0 := by
  rw [Octets.upperHexByte, lineFeeds_ofList, List.count_eq_zero]
  exact Octets.not_mem_hexPair (.inl rfl) (by decide) b

/-! ## Octets read as text -/

namespace Utf8

/-- Of ASCII, only the octet `0x0A` is read as a line feed. -/
theorem ofNat_eq_lineFeed_iff {b : UInt8} (ascii : b < 0x80) :
    Char.ofNat b.toNat = '\n' ↔ b = 0x0A := by
  refine ⟨fun same => ?_, fun same => same ▸ rfl⟩
  rw [← ofNat_toNat_ascii ascii, same]
  rfl

/-- By induction on the octets, with what each `step` has `Made` of the front: as many line feeds
are read as there are. -/
theorem count_decodeAfter (skip : Nat) (content : Octets) :
    (decodeAfter skip content).count '\n' = (content.drop skip).count 0x0A := by
  induction content generalizing skip with
  | nil => rw [decodeAfter, List.drop_nil]; rfl
  | cons first rest ih =>
    cases skip with
    | succ skip => exact ih skip
    | zero =>
      -- octets that are skipped are beyond ASCII, so there is no line feed among them
      have skips (taken : Nat) (high : ∀ b ∈ rest.take taken, 0x80 ≤ b) :
          (rest.drop taken).count 0x0A = rest.count 0x0A := by
        have none : (rest.take taken).count 0x0A = 0 :=
          List.count_eq_zero.mpr fun mem => absurd (high _ mem) (by decide)
        rw [← Nat.zero_add ((rest.drop taken).count 0x0A), ← none, ← List.count_append,
          List.take_append_drop]
      have other (high : 0x80 ≤ first) : first ≠ 0x0A := by
        rintro rfl
        exact absurd high (by decide)
      have made := step_made first rest
      rw [decodeAfter, List.drop_zero, List.count_cons]
      generalize step first rest = piece at made
      cases made with
      | ascii low =>
        rw [List.count_cons, ih, List.drop_zero]
        simp only [beq_iff_eq, ofNat_eq_lineFeed_iff low]
      | @beyond c taken high notAscii more =>
        have otherChar : c ≠ '\n' := by
          rintro rfl
          exact absurd notAscii (by decide)
        rw [List.count_cons, ih, skips _ more]
        simp only [beq_iff_eq, other high, otherChar]
      | broken high more =>
        rw [List.count_cons, ih, skips _ more, if_neg (by decide)]
        simp only [beq_iff_eq, other high, if_false]

/-- `count_decodeAfter` from the first octet on. -/
theorem count_decodeLossy (content : Octets) :
    (decodeLossy content).count '\n' = content.count 0x0A :=
  count_decodeAfter 0 content

end Utf8

end SnmpManager
