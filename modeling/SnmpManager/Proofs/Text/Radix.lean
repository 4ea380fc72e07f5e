import Mathlib.Data.List.Forall2
import Mathlib.Data.Nat.Digits.Defs
import SnmpManager.Text.Radix

/-!
# Numbers in a base

- `Radix.IsDigit`: the characters that are digits of a base, by the table of the digits.
- `Radix.Denotes`: the number that some digits stand for.
- `Radix.digit?_eq_some_iff`, `Radix.foldl_digits`: a digit is read with its value, and digits one
  after another as the number that they denote.
-/

namespace SnmpManager.Radix

/-- A character that is the digit of a base with some value. The letters may be of either case. -/
def IsDigit (base : Nat) (c : Char) (value : Nat) : Prop :=
  value < base ∧
    ("0123456789abcdef".toList[value]? = some c ∨ "0123456789ABCDEF".toList[value]? = some c)

/-- Digits of a base, at least one, and the number that they stand for; the last digit counts
ones. -/
structure Denotes (base : Nat) (text : List Char) (n : Nat) : Prop where
  filled : text ≠ []
  value : ∃ digits, List.Forall₂ (IsDigit base) text digits ∧ Nat.ofDigits base digits.reverse = n

/-! ## Single digits -/

/-- Digits of base sixteen are ASCII letters and digits, so there are few enough of them to try. -/
theorem toNat_lt_of_hexDigit? {c : Char} {value : Nat} (h : hexDigit? c = some value) :
    c.toNat < 103 := by
  have below {last : Char} (range : c ≤ last) : c.toNat ≤ last.toNat := range
  rw [hexDigit?] at h
  split at h
  case isTrue range => exact Nat.lt_of_le_of_lt (below range.2) (by decide)
  case isFalse =>
    split at h
    case isTrue range => exact Nat.lt_of_le_of_lt (below range.2) (by decide)
    case isFalse =>
      split at h
      case isTrue range => exact Nat.lt_of_le_of_lt (below range.2) (by decide)
      case isFalse => cases h

/-- `hexDigit?` is the table of the digits. There are only the characters up to `f` to try, on
either side. -/
theorem hexDigit?_eq_some_iff {c : Char} {value : Nat} : hexDigit? c = some value ↔
    "0123456789abcdef".toList[value]? = some c ∨ "0123456789ABCDEF".toList[value]? = some c := by
  constructor
  · intro h
    -- the digits are among the first characters, which can be looked through
    have all : ∀ code < 103, ∀ value ∈ hexDigit? (Char.ofNat code),
        "0123456789abcdef".toList[value]? = some (Char.ofNat code) ∨
          "0123456789ABCDEF".toList[value]? = some (Char.ofNat code) := by decide
    have found := all c.toNat (toNat_lt_of_hexDigit? h)
    rw [Char.ofNat_toNat] at found
    exact found value h
  · intro h
    have small : value < 16 := by
      rcases h with h | h
      all_goals exact (List.getElem?_eq_some_iff.mp h).1
    -- the other way round there are sixteen values to look through, in either table
    have lower : ∀ value < 16, "0123456789abcdef".toList[value]?.bind hexDigit? = some value := by
      decide
    have upper : ∀ value < 16, "0123456789ABCDEF".toList[value]?.bind hexDigit? = some value := by
      decide
    rcases h with h | h
    · have found := lower value small
      rwa [h] at found
    · have found := upper value small
      rwa [h] at found

/-- `digit?` finds the value that `IsDigit` has. -/
theorem digit?_eq_some_iff {base : Nat} {c : Char} {value : Nat} :
    digit? base c = some value ↔ IsDigit base c value := by
  rw [digit?, Option.filter_eq_some_iff, hexDigit?_eq_some_iff, decide_eq_true_iff]
  exact and_comm

theorem isSome_digit?_iff {base : Nat} {c : Char} :
    (digit? base c).isSome = true ↔ ∃ value, IsDigit base c value := by
  simp only [Option.isSome_iff_exists, digit?_eq_some_iff]

theorem isNone_digit?_iff {base : Nat} {c : Char} :
    (digit? base c).isNone = true ↔ ¬ ∃ value, IsDigit base c value := by
  rw [← isSome_digit?_iff]
  cases digit? base c <;> simp

/-! ## Digits one after another -/

variable {base : Nat} {text : List Char}

/-- Digits are added up by their values, from any number on. -/
theorem foldl_digits_from {digits : List Nat} (h : List.Forall₂ (IsDigit base) text digits)
    (start : Nat) :
    text.foldl (fun n c => n * base + (digit? base c).getD 0) start
      = digits.foldl (fun n d => n * base + d) start := by
  induction h generalizing start with
  | nil => rfl
  | cons first _ ih =>
    rw [List.foldl_cons, List.foldl_cons, digit?_eq_some_iff.mpr first, Option.getD_some, ih]

/-- Horner's rule: adding up digits from the front is `Nat.ofDigits` of them from the back. -/
theorem foldl_eq_ofDigits (digits : List Nat) :
    digits.foldl (fun n d => n * base + d) 0 = Nat.ofDigits base digits.reverse := by
  rw [Nat.ofDigits_eq_foldr, List.foldr_reverse]
  congr
  funext n d
  rw [Nat.mul_comm, Nat.add_comm]
  rfl

/-- Digits are added up one after another to the number that `Denotes` says. -/
theorem foldl_digits {n : Nat} (h : Denotes base text n) :
    text.foldl (fun n c => n * base + (digit? base c).getD 0) 0 = n := by
  obtain ⟨digits, each, value⟩ := h.value
  rw [foldl_digits_from each, foldl_eq_ofDigits, value]

/-- Digits denote a number, whatever they are. -/
theorem exists_denotes (filled : text ≠ []) (digits : ∀ c ∈ text, ∃ value, IsDigit base c value) :
    ∃ n, Denotes base text n := by
  have each : List.Forall₂ (IsDigit base) text (text.map fun c => (digit? base c).getD 0) := by
    rw [List.forall₂_map_right_iff, List.forall₂_same]
    intro c mem
    obtain ⟨value, digit⟩ := digits c mem
    rw [digit?_eq_some_iff.mpr digit]
    exact digit
  exact ⟨_, filled, _, each, rfl⟩

theorem Denotes.unique {m n : Nat} (h : Denotes base text m) (h' : Denotes base text n) :
    m = n :=
  (foldl_digits h).symm.trans (foldl_digits h')

/-- Nothing but digits denotes a number. -/
theorem Denotes.digits {n : Nat} (h : Denotes base text n) :
    ∀ c ∈ text, ∃ value, IsDigit base c value := by
  obtain ⟨digits, each, -⟩ := h.value
  clear h
  induction each with
  | nil => exact fun _ mem => absurd mem List.not_mem_nil
  | cons first _ ih => exact List.forall_mem_cons.mpr ⟨⟨_, first⟩, ih⟩

end SnmpManager.Radix
