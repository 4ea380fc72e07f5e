import SnmpManager.Literal.Basic
import SnmpManager.Proofs.Text.Decimal
import SnmpManager.Proofs.Value.Wire

/-!
# Numbers as typed

Four letters stand for numbers. They differ in the range of what may be typed, and in what a number
becomes: an integer is kept, and a counter or a time keeps its last 32 bits, also when it is
negative.

- `Literal.InRange`: the numbers that may be typed under a letter.
- `Literal.Becomes`: the value that a number is read as.
- `Literal.takes_number`: such a value is read back from the octets that it is written as.
- `Literal.parse_number`: which literals are accepted, and as what.
-/

namespace SnmpManager

namespace Literal

/-- The letters of the types that are typed as one number. -/
def numberLetters : List Char :=
  ['c', 'i', 'u', 't']

/-- The numbers that may be typed under a letter. -/
def InRange (letter : Char) (n : Int) : Prop :=
  if letter = 'c' then -2 ^ 31 ≤ n ∧ n < 2 ^ 31 else -2 ^ 63 ≤ n ∧ n < 2 ^ 63

/-- The value that a number becomes under a letter. -/
inductive Becomes (n : Int) : Char → Value → Prop
  | counter32 {word : UInt32} (bits : (word.toNat : Int) = n % 2 ^ 32) :
      Becomes n 'c' (.counter32 word)
  | integer {word : Int64} (same : word.toInt = n) : Becomes n 'i' (.integer word)
  | unsigned {word : Int64} (same : word.toInt = n) : Becomes n 'u' (.integer word)
  | timeTicks {word : UInt32} (bits : (word.toNat : Int) = n % 2 ^ 32) :
      Becomes n 't' (.timeTicks word)

/-! ## Words -/

theorem toNat_ofInt_word (n : Int) : ((UInt32.ofInt n).toNat : Int) = n % 2 ^ 32 := by
  have low : 0 ≤ n % 2 ^ 32 := Int.emod_nonneg n (by decide)
  have high : n % 2 ^ 32 < 2 ^ 32 := Int.emod_lt_of_pos n (by decide)
  rw [UInt32.ofInt, UInt32.toNat_ofNat']
  omega

/-! ## On the wire -/

/-- Nine octets are what an unsigned number of 64 bits takes, and none of these takes more. -/
theorem length_content_number_le {letter : Char} {n : Int} {value : Value}
    (h : Becomes n letter value) : value.content.length ≤ 9 := by
  have word (n : UInt32) : (Integer.octets n.toUInt64.toNat).length ≤ 9 :=
    Integer.length_octets_le (Integer.within_uint64 n.toUInt64) (Nat.le_refl 8)
  have long (n : Int64) : (Integer.octets n.toInt).length ≤ 9 :=
    Nat.le_succ_of_le (Integer.length_octets_le (Integer.within_int64 n) (by decide))
  cases h with
  | counter32 bits => exact word _
  | integer same => exact long _
  | unsigned same => exact long _
  | timeTicks bits => exact word _

/-- A number is read back by `Value.read` from the octets that it is written as. -/
theorem takes_number {letter : Char} {n : Int} {value : Value} (h : Becomes n letter value) :
    Read.Takes Value.read (value.write .empty).octets value := by
  have encodable : value.Encodable := by cases h <;> trivial
  have short : value.octets.length ≤ Length.max := by
    have content := length_content_number_le h
    have whole := Octets.length_element_le value.tag value.content
    exact Nat.le_trans whole (Nat.le_trans (Nat.add_le_add_right content 6) (by decide))
  rw [Value.octets_write, Buffer.octets_empty, List.append_nil]
  exact Value.takes_read encodable short

/-! ## Literals -/

/-- A kind whose rule is `parseSigned` is parsed as `Decimal.signed?` with its own bound. -/
theorem parse_of_number {kind : Kind} {half : Nat} {make : Int → Value} {type : String}
    {letter : Char} (first : type.toList.head? = some letter)
    (known : Kind.ofLetter? letter = some kind) {text : String}
    (rule : kind.parse text = (parseSigned half text).map make) (object : String) :
    parse object type text = match Decimal.signed? half text.toList with
      | some n => .ok (make n)
      | none => .error (.literal object text .outOfRange) := by
  rw [parse_of_letter first known, rule, parseSigned]
  cases Decimal.signed? half text.toList <;> rfl

/-- Each of the `numberLetters` has a width, and a value for each number that fits it. -/
theorem parse_of_numberLetter {letter : Char} (numeric : letter ∈ numberLetters) {type : String}
    (first : type.toList.head? = some letter) (object text : String) :
    ∃ (half : Nat) (make : Int → Value), (∀ n, InRange letter n ↔ -(half : Int) ≤ n ∧ n < half) ∧
      (∀ n, InRange letter n → Becomes n letter (make n)) ∧
      parse object type text = match Decimal.signed? half text.toList with
        | some n => .ok (make n)
        | none => .error (.literal object text .outOfRange) := by
  have long {n : Int} (range : -2 ^ 63 ≤ n ∧ n < 2 ^ 63) : (Int64.ofInt n).toInt = n :=
    Int64.toInt_ofInt_of_le range.1 range.2
  simp only [numberLetters, List.mem_cons, List.not_mem_nil, or_false] at numeric
  rcases numeric with rfl | rfl | rfl | rfl
  · exact ⟨Decimal.half32, _, fun n => Iff.rfl, fun n _ => .counter32 (toNat_ofInt_word n),
      parse_of_number first rfl rfl object⟩
  · exact ⟨Decimal.half64, _, fun n => Iff.rfl, fun n range => .integer (long range),
      parse_of_number first rfl rfl object⟩
  · exact ⟨Decimal.half64, _, fun n => Iff.rfl, fun n range => .unsigned (long range),
      parse_of_number first rfl rfl object⟩
  · exact ⟨Decimal.half64, _, fun n => Iff.rfl, fun n _ => .timeTicks (toNat_ofInt_word n),
      parse_of_number first rfl rfl object⟩

/-- A literal under one of the `numberLetters` is accepted exactly if it is a number in the range of
the letter, with at most one sign. Its value is what the number `Becomes`, and is read back from
what it is written as; any other literal is out of range. -/
theorem parse_number {letter : Char} (numeric : letter ∈ numberLetters) {type : String}
    (first : type.toList.head? = some letter) (object text : String) :
    ((∃ value, parse object type text = .ok value) ↔
      ∃ n, Decimal.Signed text.toList n ∧ InRange letter n) ∧
    (∀ value, parse object type text = .ok value →
      (∃ n, Decimal.Signed text.toList n ∧ InRange letter n ∧ Becomes n letter value) ∧
        Read.Takes Value.read (value.write .empty).octets value) ∧
    ∀ error, parse object type text = .error error →
      error = .literal object text .outOfRange := by
  obtain ⟨half, make, range, becomes, read⟩ := parse_of_numberLetter numeric first object text
  have denotes (n : Int) : Decimal.signed? half text.toList = some n ↔
      Decimal.Signed text.toList n ∧ InRange letter n := by
    rw [Decimal.signed?_eq_some_iff, range]
  -- both sides in terms of the one reader, which the cases below are about
  simp only [read, ← denotes]
  cases number : Decimal.signed? half text.toList with
  | none =>
    refine ⟨iff_of_false nofun nofun, nofun, ?_⟩
    rintro _ ⟨⟩
    rfl
  | some n =>
    obtain ⟨signed, fits⟩ := (denotes n).mp number
    refine ⟨iff_of_true ⟨_, rfl⟩ ⟨n, rfl⟩, ?_, nofun⟩
    rintro _ ⟨⟩
    exact ⟨⟨n, signed, fits, becomes n fits⟩, takes_number (becomes n fits)⟩

/-- The smallest number that may be typed for a counter, with a zero in front. -/
theorem parse_number_lowest :
    let lowest : Value := .counter32 0x80000000
    'c' ∈ numberLetters ∧ "counter".toList.head? = some 'c' ∧
      parse "1.3" "counter" "-02147483648" = .ok lowest ∧
      (∃ n, Decimal.Signed "-02147483648".toList n ∧ InRange 'c' n ∧ Becomes n 'c' lowest) ∧
      Read.Takes Value.read [0x41, 0x05, 0x00, 0x80, 0x00, 0x00, 0x00] lowest := by
  intro lowest
  have numeric : 'c' ∈ numberLetters := by decide
  have first : "counter".toList.head? = some 'c' := rfl
  have accepted : parse "1.3" "counter" "-02147483648" = .ok lowest := by decide +kernel
  have written : (lowest.write .empty).octets = [0x41, 0x05, 0x00, 0x80, 0x00, 0x00, 0x00] := by
    decide
  obtain ⟨number, back⟩ := (parse_number numeric first "1.3" "-02147483648").2.1 lowest accepted
  rw [written] at back
  exact ⟨numeric, first, accepted, number, back⟩

end Literal

end SnmpManager
