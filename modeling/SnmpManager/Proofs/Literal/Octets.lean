import SnmpManager.Literal.Basic
import SnmpManager.Proofs.Literal.Buffer
import SnmpManager.Proofs.Text.Hex

/-!
# Octets typed in hex

A literal of octets is cut into tokens at its separators, and each token is one octet. The hex
that is printed has one token of two digits for each octet, with a space between; so it is read
back, as long as there is room in the buffer (`Literal.parseBytes_upperHex`).

- `Literal.tokens_intercalate`: tokens with separators between are cut apart again.
- `Literal.foldlM_pushByte`: the octets of some tokens are appended in order.
-/

namespace SnmpManager.Literal

/-! ## Tokens -/

/-- `splitOnP` cuts what is divided by separators, and has none in its parts, into the parts. -/
theorem splitOnP_intercalate {separates : Char → Bool} {sep : Char} (h : separates sep = true)
    {parts : List (List Char)} (some : parts ≠ [])
    (plain : ∀ part ∈ parts, ∀ c ∈ part, separates c = false) :
    ([sep].intercalate parts).splitOnP separates = parts := by
  induction parts with
  | nil => exact absurd rfl some
  | cons part parts ih =>
    obtain ⟨first, rest⟩ := List.forall_mem_cons.mp plain
    cases parts with
    | nil => rw [List.intercalate_singleton, List.splitOnP_eq_singleton first]
    | cons next more =>
      rw [List.intercalate_cons_of_ne_nil (List.cons_ne_nil next more), List.append_assoc,
        List.singleton_append, List.splitOnP_append_cons_of_forall_mem first sep h,
        ih (List.cons_ne_nil next more) rest]

/-- `tokens` finds what separators were put between. -/
theorem tokens_intercalate {separators : List Char} {sep : Char} (h : sep ∈ separators)
    {parts : List (List Char)} (some : ∀ part ∈ parts, part ≠ [])
    (plain : ∀ part ∈ parts, ∀ c ∈ part, c ∉ separators) :
    tokens separators ([sep].intercalate parts) = parts := by
  by_cases none : parts = []
  · subst none
    rfl
  · have cut : ([sep].intercalate parts).splitOnP (fun c => separators.contains c) = parts := by
      refine splitOnP_intercalate (List.contains_iff_mem.mpr h) none ?_
      intro part mem c inside
      rw [Bool.eq_false_iff, Ne, List.contains_iff_mem]
      exact plain part mem c inside
    rw [tokens, cut, List.filter_eq_self]
    intro part mem
    exact decide_eq_true (some part mem)

/-! ## Octets -/

/-- A token of two digits, as `hexPair` has it, denotes its octet. -/
theorem number_hexPair (b : UInt8) : number 16 (Octets.hexPair 'A' b) = .ok b.toNat := by
  have high := Octets.digit?_high (.inl rfl) b
  have low := Octets.digit?_low (.inl rfl) b
  have value : (0 * 16 + b.toNat / 16) * 16 + b.toNat % 16 = b.toNat := by omega
  rw [number, Octets.hexPair]
  simp only [List.find?_cons, List.find?_nil, List.foldl_cons, List.foldl_nil, high, low,
    Option.isNone_some, Option.getD_some, value]

/-- `pushByte` puts the octet of a `hexPair` at the end. -/
theorem pushByte_hexPair {buffer : OctetBuffer} (room : buffer.size < OctetBuffer.maxSize)
    (b : UInt8) : pushByte 16 buffer (Octets.hexPair 'A' b) = .ok ⟨buffer.bytes.push b⟩ := by
  have top : ¬ b.toNat > 255 := by
    have := b.toNat_lt
    omega
  rw [pushByte, number_hexPair]
  dsimp only
  rw [if_neg top, UInt8.ofNat_toNat, OctetBuffer.push_of_lt room]

/-- `pushByte` puts the octets of some tokens at the end, in order, as long as there is room. -/
theorem foldlM_pushByte {content : Octets} {buffer : OctetBuffer}
    (room : buffer.size + content.length ≤ OctetBuffer.maxSize) :
    (content.map (Octets.hexPair 'A')).foldlM (pushByte 16) buffer
      = .ok ⟨buffer.bytes ++ content⟩ := by
  -- the buffer grows by one octet a token, so it has to be arbitrary
  induction content generalizing buffer with
  | nil =>
    rw [Array.appendList_nil]
    rfl
  | cons b content ih =>
    rw [List.length_cons] at room
    have first := pushByte_hexPair (show buffer.size < OctetBuffer.maxSize by omega) b
    have rest : OctetBuffer.size ⟨buffer.bytes.push b⟩ + content.length ≤ OctetBuffer.maxSize := by
      rw [OctetBuffer.size, Array.size_push, ← OctetBuffer.size]
      omega
    rw [List.map_cons, List.foldlM_cons, first]
    show (content.map (Octets.hexPair 'A')).foldlM (pushByte 16) ⟨buffer.bytes.push b⟩ = _
    rw [ih rest, Array.appendList_cons]

/-- Octets are read back by `parseBytes` from their `upperHex`. -/
theorem parseBytes_upperHex {content : Octets} (short : content.length ≤ OctetBuffer.maxSize) :
    parseBytes 16 [' ', '\t', ','] content.upperHex.toList = .ok content := by
  have found : tokens [' ', '\t', ','] content.upperHex.toList
      = content.map (Octets.hexPair 'A') := by
    rw [Octets.upperHex, String.toList_ofList]
    refine tokens_intercalate (by decide) ?_ ?_
    · rw [List.forall_mem_map]
      intro b _
      exact List.cons_ne_nil _ _
    · rw [List.forall_mem_map]
      intro b _ c digit separator
      have digit := Octets.digit?_of_mem_hexPair (.inl rfl) digit
      simp only [List.mem_cons, List.not_mem_nil, or_false] at separator
      rcases separator with rfl | rfl | rfl
      all_goals exact absurd digit (by decide)
  have room : OctetBuffer.empty.size + content.length ≤ OctetBuffer.maxSize := by
    show 0 + content.length ≤ OctetBuffer.maxSize
    omega
  have all : OctetBuffer.octets ⟨OctetBuffer.empty.bytes ++ content⟩ = content := by
    rw [OctetBuffer.octets, OctetBuffer.empty, List.toArray_appendList, List.nil_append]
  rw [parseBytes, found, foldlM_pushByte room]
  exact congrArg Except.ok all

end SnmpManager.Literal
