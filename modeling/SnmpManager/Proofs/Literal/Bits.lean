import Mathlib.Data.Nat.Bitwise
import Mathlib.Order.Bounds.Basic
import SnmpManager.Proofs.Literal.Buffer
import SnmpManager.Proofs.Literal.Runs

/-!
# Bits typed by their indices

A literal of bits lists the indices of those that are set, in any order and as often as one likes.
They are put into a buffer that grows with them, so what is read has to be told from the set of
the indices alone: which bits are set, and where the octets end (`BitString`). The octets are
determined by the set (`BitString.unique`), and each index that is put in adds itself
(`BitString.modify`).

- `Literal.exists_parseBits_iff`: the lists that are accepted.
- `Literal.bitString_of_parseBits`: what such a list is read as.
- `Literal.parse_bits`: both of them for a whole literal, whose value the set decides.
-/

namespace SnmpManager.Literal

/-- The bit of an octet at an index, which counts from the top bit of the first octet. -/
def IsSet (octet : UInt8) (i : Nat) : Prop :=
  octet &&& (0x80 >>> UInt8.ofNat (i % 8)) ≠ 0

/-- Octets in which the bits of `indices` are set and no others, and that end with the last of
them. -/
structure BitString (octets : Octets) (indices : Set Nat) : Prop where
  bits : ∀ i, IsSet (octets.getD (i / 8) 0) i ↔ i ∈ indices
  length : indices = ∅ ∧ octets = [] ∨
    ∃ last, IsGreatest indices last ∧ octets.length = last / 8 + 1

/-! ## Bits of an octet -/

/-- The mask of the model as a power of two, which is what `Nat.testBit` is about. -/
theorem toNat_mask (i : Nat) :
    ((0x80 : UInt8) >>> UInt8.ofNat (i % 8)).toNat = 2 ^ (7 - i % 8) := by
  have all : ∀ k : Fin 8, ((0x80 : UInt8) >>> UInt8.ofNat k).toNat = 2 ^ (7 - k.val) := by decide
  exact all ⟨i % 8, Nat.mod_lt i (by decide)⟩

/-- `IsSet` is a bit test on the number. -/
theorem isSet_iff_testBit {octet : UInt8} {i : Nat} :
    IsSet octet i ↔ octet.toNat.testBit (7 - i % 8) = true := by
  rw [IsSet, Ne, ← UInt8.toNat_inj, UInt8.toNat_and, toNat_mask, Nat.and_two_pow]
  cases octet.toNat.testBit (7 - i % 8) <;> simp

theorem not_isSet_zero (i : Nat) : ¬ IsSet 0 i := by
  rw [isSet_iff_testBit]
  simp

/-- Setting a bit leaves the other ones of its octet as they are: `IsSet` holds of those that were
set before and of that one. -/
theorem isSet_or_mask {octet : UInt8} {i j : Nat} :
    IsSet (octet ||| (0x80 >>> UInt8.ofNat (j % 8))) i ↔ IsSet octet i ∨ i % 8 = j % 8 := by
  have same : 7 - j % 8 = 7 - i % 8 ↔ i % 8 = j % 8 := by omega
  rw [isSet_iff_testBit, isSet_iff_testBit, UInt8.toNat_or, toNat_mask, Nat.testBit_or,
    Nat.testBit_two_pow, Bool.or_eq_true, decide_eq_true_iff, same]

/-- An octet is its eight bits. -/
theorem eq_of_isSet_iff {a b : UInt8} (h : ∀ i, IsSet a i ↔ IsSet b i) : a = b := by
  refine UInt8.toNat_inj.mp (Nat.eq_of_testBit_eq fun k => ?_)
  by_cases small : k < 8
  case pos =>
    have place : 7 - (7 - k) % 8 = k := by omega
    have bit := h (7 - k)
    rw [isSet_iff_testBit, isSet_iff_testBit, place] at bit
    exact Bool.eq_iff_iff.mpr bit
  case neg =>
    have top : 2 ^ 8 ≤ 2 ^ k := Nat.pow_le_pow_right (by decide) (Nat.not_lt.mp small)
    rw [Nat.testBit_lt_two_pow (Nat.lt_of_lt_of_le a.toNat_lt top),
      Nat.testBit_lt_two_pow (Nat.lt_of_lt_of_le b.toNat_lt top)]

/-! ## Bits of octets -/

namespace BitString

variable {a b : Octets} {indices : Set Nat}

/-- The greatest index decides how many octets there are. -/
theorem length_eq (h : BitString a indices) (h' : BitString b indices) : a.length = b.length := by
  rcases h.length with ⟨none, rfl⟩ | ⟨last, greatest, size⟩ <;>
    rcases h'.length with ⟨none', rfl⟩ | ⟨last', greatest', size'⟩
  · rfl
  · exact absurd greatest'.1 (none ▸ Set.notMem_empty last')
  · exact absurd greatest.1 (none' ▸ Set.notMem_empty last)
  · rw [size, size', greatest.unique greatest']

/-- The octets of a `BitString` are determined by its indices. -/
theorem unique (h : BitString a indices) (h' : BitString b indices) : a = b := by
  refine List.ext_getElem (h.length_eq h') fun n inA inB => ?_
  refine eq_of_isSet_iff fun i => ?_
  -- the bit of the octet is one of the octets
  have place : (8 * n + i % 8) / 8 = n ∧ (8 * n + i % 8) % 8 = i % 8 := by omega
  have bit := (h.bits (8 * n + i % 8)).trans (h'.bits (8 * n + i % 8)).symm
  rw [IsSet, IsSet, place.1, place.2, List.getD_eq_getElem a 0 inA, List.getD_eq_getElem b 0 inB]
    at bit
  exact bit

theorem empty : BitString OctetBuffer.empty.octets ∅ where
  bits i := iff_of_false (not_isSet_zero i) (Set.notMem_empty i)
  length := .inl ⟨rfl, rfl⟩

variable {buffer changed : OctetBuffer} {i : Nat}

/-- The greatest index decides where the octets end, also after one was added: `modify` grows the
buffer to the octet of `i`, if it is not as long already. -/
theorem size_insert (h : BitString buffer.octets indices)
    (size : changed.size = max buffer.size (i / 8 + 1)) :
    ∃ last, IsGreatest (insert i indices) last ∧ changed.octets.length = last / 8 + 1 := by
  rw [OctetBuffer.length_octets, size, ← OctetBuffer.length_octets]
  rcases h.length with ⟨rfl, none⟩ | ⟨last, greatest, length⟩
  · refine ⟨i, ?_, ?_⟩
    · rw [LawfulSingleton.insert_empty_eq]
      exact isGreatest_singleton
    · rw [none]
      exact Nat.max_eq_right (Nat.zero_le _)
  · refine ⟨max i last, greatest.insert i, ?_⟩
    rw [length]
    omega

/-- The step lemma: setting the bit of an index adds the index to what the buffer is a `BitString`
of. -/
theorem modify (h : BitString buffer.octets indices)
    (set : buffer.modify (i / 8) (· ||| bitMask i) = .ok changed) :
    BitString changed.octets (insert i indices) where
  bits j := by
    have before : IsSet (buffer.octet (j / 8)) j ↔ j ∈ indices := by
      rw [← OctetBuffer.getD_octets]
      exact h.bits j
    rw [OctetBuffer.getD_octets, OctetBuffer.octet_of_modify set, Set.mem_insert_iff]
    split
    case isTrue here =>
      have same : j % 8 = i % 8 ↔ j = i := by omega
      rw [bitMask, isSet_or_mask, before, same]
      exact or_comm
    case isFalse elsewhere =>
      have other : j ≠ i := fun same => elsewhere (congrArg (· / 8) same)
      rw [before, or_iff_right other]
  length := .inr (h.size_insert (OctetBuffer.size_of_modify set))

end BitString

/-! ## Literals of bits -/

/-- The numbers that the runs of a text denote. -/
def indices (text : List Char) : Set Nat :=
  {i | ∃ run, IsRun [' ', '\t', ','] text run ∧ Decimal.Denotes run i}

theorem indices_eq (text : List Char) :
    indices text = {i | ∃ token ∈ tokens [' ', '\t', ','] text, Decimal.Denotes token i} := by
  simp only [indices, mem_tokens_iff]

section

variable {buffer : OctetBuffer}

/-- `setBit` reads a number and sets the bit it names. -/
theorem setBit_eq_ok_iff {token : List Char} (filled : token ≠ []) {changed : OctetBuffer} :
    setBit buffer token = .ok changed ↔
      ∃ i, Decimal.Denotes token i ∧ buffer.modify (i / 8) (· ||| bitMask i) = .ok changed := by
  simp only [← number_ten_eq_ok_iff filled]
  rw [setBit]
  cases number 10 token <;> simp

/-- A token is put in by `setBit` exactly if it denotes the index of a bit below the cap, whatever
is in the buffer. -/
theorem exists_setBit_iff (buffer : OctetBuffer) {token : List Char} (filled : token ≠ []) :
    (∃ changed, setBit buffer token = .ok changed) ↔
      ∃ i, Decimal.Denotes token i ∧ i < OctetBuffer.maxSize * 8 := by
  have cap (i : Nat) : i < OctetBuffer.maxSize * 8 ↔
      ∃ changed, buffer.modify (i / 8) (· ||| bitMask i) = .ok changed := by
    rw [OctetBuffer.exists_modify_iff, Nat.div_lt_iff_lt_mul (by decide)]
  simp only [setBit_eq_ok_iff filled, cap]
  constructor
  · rintro ⟨changed, i, denotes, set⟩
    exact ⟨i, denotes, changed, set⟩
  · rintro ⟨i, denotes, changed, set⟩
    exact ⟨changed, i, denotes, set⟩

/-- `exists_setBit_iff` for one token after another: the buffers between do not matter. -/
theorem exists_foldlM_setBit_iff (buffer : OctetBuffer) {tokens : List (List Char)}
    (filled : ∀ token ∈ tokens, token ≠ []) :
    (∃ last, tokens.foldlM setBit buffer = .ok last) ↔
      ∀ token ∈ tokens, ∃ i, Decimal.Denotes token i ∧ i < OctetBuffer.maxSize * 8 := by
  -- whether a token is put in does not depend on the buffer
  induction tokens generalizing buffer with
  | nil => exact iff_of_true ⟨buffer, rfl⟩ (List.forall_mem_nil _)
  | cons token tokens ih =>
    obtain ⟨first, others⟩ := List.forall_mem_cons.mp filled
    rw [List.forall_mem_cons, ← exists_setBit_iff buffer first]
    constructor
    · rintro ⟨last, all⟩
      obtain ⟨changed, set, rest⟩ := foldlM_cons_eq_ok_iff.mp all
      exact ⟨⟨changed, set⟩, (ih changed others).mp ⟨last, rest⟩⟩
    · rintro ⟨⟨changed, set⟩, more⟩
      obtain ⟨last, rest⟩ := (ih changed others).mpr more
      exact ⟨last, foldlM_cons_eq_ok_iff.mpr ⟨changed, set, rest⟩⟩

/-- The run lemma from `BitString.modify`: what all the tokens denote is added to `indices`. -/
theorem bitString_of_foldlM {tokens : List (List Char)} (filled : ∀ token ∈ tokens, token ≠ [])
    {last : OctetBuffer} {indices : Set Nat} (h : BitString buffer.octets indices)
    (all : tokens.foldlM setBit buffer = .ok last) :
    BitString last.octets (indices ∪ {i | ∃ token ∈ tokens, Decimal.Denotes token i}) := by
  -- the tokens that were put in are part of what is there, so the indices have to be arbitrary
  induction tokens generalizing buffer indices with
  | nil =>
    cases all
    simpa using h
  | cons token tokens ih =>
    obtain ⟨first, others⟩ := List.forall_mem_cons.mp filled
    obtain ⟨changed, set, rest⟩ := foldlM_cons_eq_ok_iff.mp all
    obtain ⟨i, denotes, set⟩ := (setBit_eq_ok_iff first).mp set
    have only : {j | ∃ token' ∈ token :: tokens, Decimal.Denotes token' j}
        = insert i {j | ∃ token' ∈ tokens, Decimal.Denotes token' j} := by
      ext j
      have alone : Decimal.Denotes token j ↔ j = i :=
        ⟨fun h => h.unique denotes, fun same => same ▸ denotes⟩
      simp [alone]
    rw [only, Set.union_insert, ← Set.insert_union]
    exact ih others (h.modify set) rest

end

theorem parseBits_eq_ok_iff {text : List Char} {octets : Octets} : parseBits text = .ok octets ↔
    ∃ last, (tokens [' ', '\t', ','] text).foldlM setBit .empty = .ok last ∧
      last.octets = octets := by
  rw [parseBits]
  cases (tokens [' ', '\t', ','] text).foldlM setBit .empty with
  | error fault => exact iff_of_false nofun nofun
  | ok last =>
    show Except.ok last.octets = _ ↔ _
    simp

/-- A list of bits is accepted by `parseBits` exactly if all of its runs are indices below the
cap. -/
theorem exists_parseBits_iff {text : List Char} : (∃ octets, parseBits text = .ok octets) ↔
    ∀ run, IsRun [' ', '\t', ','] text run →
      ∃ i, Decimal.Denotes run i ∧ i < OctetBuffer.maxSize * 8 := by
  simp only [← mem_tokens_iff]
  rw [← exists_foldlM_setBit_iff .empty fun token mem => (mem_tokens_iff.mp mem).filled]
  constructor
  · rintro ⟨octets, h⟩
    obtain ⟨last, all, -⟩ := parseBits_eq_ok_iff.mp h
    exact ⟨last, all⟩
  · rintro ⟨last, all⟩
    exact ⟨last.octets, parseBits_eq_ok_iff.mpr ⟨last, all, rfl⟩⟩

/-- A list of bits is read as the `BitString` of what its runs denote. -/
theorem bitString_of_parseBits {text : List Char} {octets : Octets}
    (h : parseBits text = .ok octets) : BitString octets (indices text) := by
  obtain ⟨last, all, rfl⟩ := parseBits_eq_ok_iff.mp h
  rw [indices_eq, ← Set.empty_union {i | _}]
  exact bitString_of_foldlM (fun token mem => (mem_tokens_iff.mp mem).filled) .empty all

theorem parse_eq_ok_iff_of_bits {type : String} (first : type.toList.head? = some 'b')
    {object text : String} {value : Value} : parse object type text = .ok value ↔
      ∃ octets, parseBits text.toList = .ok octets ∧ .octetString octets = value := by
  rw [parse_of_letter first rfl, Kind.parse]
  cases parseBits text.toList with
  | error fault => exact iff_of_false nofun nofun
  | ok octets =>
    show Except.ok (Value.octetString octets) = _ ↔ _
    simp

/-- A literal of bits is accepted exactly if every text that `IsRun` in it is an index below the
cap. Its value is the `BitString` of these indices, so it depends on nothing but their set. -/
theorem parse_bits {type : String} (first : type.toList.head? = some 'b') (object text : String) :
    ((∃ value, parse object type text = .ok value) ↔
      ∀ run, IsRun [' ', '\t', ','] text.toList run → ∃ i, Decimal.Denotes run i ∧ i < 65535 * 8) ∧
    (∀ value, parse object type text = .ok value →
      ∃ octets, value = .octetString octets ∧ BitString octets (indices text.toList)) ∧
    ∀ other value value', indices text.toList = indices other.toList →
      parse object type text = .ok value → parse object type other = .ok value' →
      value = value' := by
  -- what was accepted is read as bits either way, for this text and for any other
  have accepted {text : String} {value : Value} (h : parse object type text = .ok value) :
      ∃ octets, value = .octetString octets ∧ BitString octets (indices text.toList) := by
    obtain ⟨octets, read, rfl⟩ := (parse_eq_ok_iff_of_bits first).mp h
    exact ⟨octets, rfl, bitString_of_parseBits read⟩
  refine ⟨?_, fun value h => accepted h, ?_⟩
  · show _ ↔ ∀ run, _ → ∃ i, Decimal.Denotes run i ∧ i < OctetBuffer.maxSize * 8
    rw [← exists_parseBits_iff]
    constructor
    · rintro ⟨value, h⟩
      obtain ⟨octets, read, -⟩ := (parse_eq_ok_iff_of_bits first).mp h
      exact ⟨octets, read⟩
    · rintro ⟨octets, read⟩
      exact ⟨.octetString octets, (parse_eq_ok_iff_of_bits first).mpr ⟨octets, read, rfl⟩⟩
  · intro other value value' same h h'
    obtain ⟨octets, rfl, bits⟩ := accepted h
    obtain ⟨octets', rfl, bits'⟩ := accepted h'
    rw [same] at bits
    -- two strings of bits with the same indices are the same octets
    rw [bits.unique bits']

/-- Three bits, listed in another order, with other separators and one of them twice. -/
theorem parse_bits_shuffled :
    let value : Value := .octetString [0x81, 0x01]
    parse "1.3" "b" "0,,7\t\t15" = .ok value ∧
      indices "0,,7\t\t15".toList = indices "15 7,0 7".toList ∧
      (∃ other, parse "1.3" "b" "15 7,0 7" = .ok other) ∧
      ∀ other, parse "1.3" "b" "15 7,0 7" = .ok other → value = other := by
  intro value
  have read : parse "1.3" "b" "0,,7\t\t15" = .ok value := by decide +kernel
  have other : parse "1.3" "b" "15 7,0 7" = .ok value := by decide +kernel
  have same : indices "0,,7\t\t15".toList = indices "15 7,0 7".toList := by
    have ordered : tokens [' ', '\t', ','] "0,,7\t\t15".toList = [['0'], ['7'], ['1', '5']] := by
      decide
    have shuffled : tokens [' ', '\t', ','] "15 7,0 7".toList
        = [['1', '5'], ['7'], ['0'], ['7']] := by decide
    rw [indices_eq, indices_eq, ordered, shuffled]
    ext i
    simp only [Set.mem_ofPred_eq, List.exists_mem_cons_iff]
    tauto
  exact ⟨read, same, ⟨value, other⟩, fun again h =>
    (parse_bits rfl "1.3" "0,,7\t\t15").2.2 "15 7,0 7" value again same read h⟩

end SnmpManager.Literal
