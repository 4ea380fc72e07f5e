import SnmpManager.Octets
import SnmpManager.Text.Radix

/-!
# Hex digits

The digits an octet is written in are digits of base sixteen, whether its letters are upper
or lower case, and their values are the two halves of the octet.

- `Octets.digit?_hexDigit`: each digit has the value it was written for.
- `Octets.digit?_of_mem_hexPair`: nothing but digits is written, so that no separator and no
  line feed is (`Octets.not_mem_hexPair`).
- `Octets.ofHex?`: the octets that hex stands for. They are read from both forms
  (`Octets.ofHex?_upperHex`, `Octets.ofHex?_lowerHex`).
-/

namespace SnmpManager.Octets

/-- The first of the letters that stand for the digits from ten on. -/
def IsLetterBase (letterBase : Char) : Prop :=
  letterBase = 'A' ∨ letterBase = 'a'

section

variable {letterBase : Char} (h : IsLetterBase letterBase)

include h

/-- `hexDigit` writes a digit of base sixteen, with the value it was written for. -/
theorem digit?_hexDigit {d : Nat} (small : d < 16) :
    Radix.digit? 16 (hexDigit letterBase d) = some d := by
  have upper : ∀ d < 16, Radix.digit? 16 (hexDigit 'A' d) = some d := by decide
  have lower : ∀ d < 16, Radix.digit? 16 (hexDigit 'a' d) = some d := by decide
  rcases h with rfl | rfl
  · exact upper d small
  · exact lower d small

/-- The digit of the high half of an octet. -/
theorem digit?_high (b : UInt8) :
    Radix.digit? 16 (hexDigit letterBase (b.toNat / 16)) = some (b.toNat / 16) := by
  have top := b.toNat_lt
  exact digit?_hexDigit h (by omega)

/-- The digit of the low half of an octet. -/
theorem digit?_low (b : UInt8) :
    Radix.digit? 16 (hexDigit letterBase (b.toNat % 16)) = some (b.toNat % 16) :=
  digit?_hexDigit h (Nat.mod_lt _ (by decide))

/-- A `hexPair` is two digits and nothing else. -/
theorem digit?_of_mem_hexPair {b : UInt8} {c : Char} (mem : c ∈ hexPair letterBase b) :
    (Radix.digit? 16 c).isSome = true := by
  simp only [hexPair, List.mem_cons, List.not_mem_nil, or_false] at mem
  rcases mem with rfl | rfl
  · rw [digit?_high h]
    rfl
  · rw [digit?_low h]
    rfl

theorem not_mem_hexPair {c : Char} (other : (Radix.digit? 16 c).isSome = false) (b : UInt8) :
    c ∉ hexPair letterBase b := by
  intro mem
  rw [digit?_of_mem_hexPair h mem] at other
  cases other

end

/-! ## Octets read from hex -/

/-- The octets that pairs of digits stand for. -/
def ofHexPairs? : List Char → Option Octets
  | [] => some []
  | [_] => none
  | high :: low :: rest => do
    let high ← Radix.digit? 16 high
    let low ← Radix.digit? 16 low
    return UInt8.ofNat (high * 16 + low) :: (← ofHexPairs? rest)

/-- The octets that a text of hex stands for. The letters may be of either case, and blanks do not
count. -/
def ofHex? (text : List Char) : Option Octets :=
  ofHexPairs? (text.filter (· ≠ ' '))

/-- By induction on the octets: each pair of digits is one octet again. -/
theorem ofHexPairs?_flatMap {letterBase : Char} (h : IsLetterBase letterBase) (content : Octets) :
    ofHexPairs? (content.flatMap (hexPair letterBase)) = some content := by
  induction content with
  | nil => rfl
  | cons b content ih =>
    have octet : b.toNat / 16 * 16 + b.toNat % 16 = b.toNat := Nat.div_add_mod' _ _
    rw [List.flatMap_cons, hexPair, List.cons_append, List.cons_append, List.nil_append,
      ofHexPairs?, digit?_high h, digit?_low h, ih]
    show some (UInt8.ofNat (b.toNat / 16 * 16 + b.toNat % 16) :: content) = _
    rw [octet, UInt8.ofNat_toNat]

/-- Without the separators, only the parts are left. -/
theorem filter_intercalate {sep : Char} {parts : List (List Char)}
    (h : ∀ part ∈ parts, sep ∉ part) :
    ([sep].intercalate parts).filter (· ≠ sep) = parts.flatten := by
  induction parts with
  | nil => rfl
  | cons part parts ih =>
    obtain ⟨first, rest⟩ := List.forall_mem_cons.mp h
    have whole : part.filter (· ≠ sep) = part :=
      List.filter_eq_self.mpr fun c mem => decide_eq_true fun same => first (same ▸ mem)
    by_cases none : parts = []
    case pos => rw [none, List.intercalate_singleton, whole, List.flatten_singleton]
    case neg =>
      have gone : [sep].filter (· ≠ sep) = [] := by simp
      rw [List.intercalate_cons_of_ne_nil none, List.filter_append, List.filter_append, whole, gone,
        ih rest, List.append_nil, List.flatten_cons]

/-- `ofHex?` reads back `upperHex`, where blanks stand between the octets. -/
theorem ofHex?_upperHex (content : Octets) : ofHex? content.upperHex.toList = some content := by
  have plain : ∀ part ∈ content.map (hexPair 'A'), ' ' ∉ part :=
    List.forall_mem_map.mpr fun b _ => not_mem_hexPair (.inl rfl) (by decide) b
  rw [ofHex?, upperHex, String.toList_ofList, filter_intercalate plain, ← List.flatMap_def,
    ofHexPairs?_flatMap (.inl rfl)]

/-- `ofHex?` reads back `lowerHex`, where nothing does. -/
theorem ofHex?_lowerHex (content : Octets) : ofHex? content.lowerHex.toList = some content := by
  have plain :
      (content.flatMap (hexPair 'a')).filter (· ≠ ' ') = content.flatMap (hexPair 'a') := by
    refine List.filter_eq_self.mpr fun c mem => decide_eq_true ?_
    rintro rfl
    obtain ⟨b, _, digit⟩ := List.mem_flatMap.mp mem
    exact not_mem_hexPair (.inr rfl) (by decide) b digit
  rw [ofHex?, lowerHex, String.toList_ofList, plain, ofHexPairs?_flatMap (.inr rfl)]

end SnmpManager.Octets
