import SnmpManager.Proofs.Ber.Uses

/-!
# Numbers as content

What number goes out as which octets, and what is read from octets that nobody wrote.
A signed number goes out in the fewest octets that are read as it. An unsigned one has an
octet of zeros in front where its first octet would read as a sign; when it is read, any
number of these may stand in front, and what is left has to fit the bits that are asked for.

- `Integer.SignedContent`, `Integer.UnsignedContent`: what the content of a number is held to.
- `Read.shortest_integerContent`: whatever is read as a signed number takes no fewer octets.
- `Read.unsignedContent_append`: what is read from any content of an unsigned number.
- `Integer.content_exact`: all numbers of 64 bits, and all contents.
-/

namespace SnmpManager

/-! ## What is read -/

namespace Read

/-- What `integerContent` reads from so many octets, `Integer.octets` writes in no more. -/
theorem shortest_integerContent (count : Nat) :
    Uses (integerContent count) fun n _ => (Integer.octets n.toInt).length ≤ count := by
  unfold integerContent
  split
  case isTrue => exact uses_fail _ _
  case isFalse some =>
    split
    case isTrue => exact uses_fail _ _
    case isFalse few =>
      refine (uses_bytes count).bind fun content used ⟨_, counted⟩ => uses_pure ?_
      cases content with
      | nil => exact absurd counted.symm some
      | cons first rest =>
        -- eight octets hold no number of more than 64 bits, so nothing is lost
        have within := Integer.within_ofOctets first rest
        have short : rest.length ≤ 7 := by
          rw [List.length_cons] at counted
          omega
        have wide := within.mono short
        rw [Int64.toInt_ofInt_of_le wide.1 wide.2]
        exact counted ▸ Integer.length_octets_le within (by omega)

/-- Octets are read by `unsignedContent` as the number `Octets.toNat` that they denote, unless those
after the leading zeros have too many bits. -/
theorem unsignedContent_append {content : Octets} (some : content ≠ []) {k : Nat} (offset : Nat)
    (rest : Octets) :
    (unsignedContent content.length (8 * k)).on ⟨offset, content ++ rest⟩
      = (if Octets.toNat content < 256 ^ k then .ok (UInt64.ofNat (Octets.toNat content))
          else .error ⟨offset + content.length, .integerOverflow⟩,
        ⟨offset + content.length, rest⟩) := by
  have filled : content.length ≠ 0 := fun none => some (List.length_eq_zero_iff.mp none)
  have fits : ¬ (Octets.dropZeros content).length * 8 > 8 * k ↔ Octets.toNat content < 256 ^ k := by
    rw [← Octets.length_dropZeros_le_iff]
    omega
  rw [unsignedContent, if_neg filled, on_bind, bytes_on_append]
  show (if (Octets.dropZeros content).length * 8 > 8 * k then fail .integerOverflow
    else pure (UInt64.ofNat (Octets.toNat (Octets.dropZeros content))) : Read UInt64).on _ = _
  split
  case isTrue long => rw [if_neg (fun small => fits.mpr small long), on_fail]
  case isFalse short => rw [if_pos (fits.mp short), on_pure, Octets.toNat_dropZeros]

end Read

/-! ## What goes out -/

namespace Integer

/-- Content of a signed number: `Buffer.integer` puts it out, `Read.integerContent` reads it as the
number, and never reads fewer octets as it. -/
structure SignedContent (n : Int64) (content : Octets) : Prop where
  written : ∀ buffer : Buffer,
    (buffer.integer n).octets = Octets.element Tag.integer content ++ buffer.octets
  read : Read.Takes (Read.integerContent content.length) content n
  shortest : ∀ count cursor after,
    (Read.integerContent count).on cursor = (.ok n, after) → content.length ≤ count

/-- Content of an unsigned number: `Buffer.unsigned` puts it out under any tag, no sign is seen in
it, it has at most one octet more than 64 bits have, and `Read.unsignedContent` reads it as the
number with 64 bits, and with 32 if these are enough. -/
structure UnsignedContent (n : UInt64) (content : Octets) : Prop where
  written : ∀ (buffer : Buffer) (t : UInt8),
    (buffer.unsigned t n).octets = Octets.element t content ++ buffer.octets
  top : ∃ first rest, content = first :: rest ∧ first < 0x80
  length_le : content.length ≤ 9
  read : Read.Takes (Read.unsignedContent content.length 64) content n
  read32 : n.toNat < 2 ^ 32 → Read.Takes (Read.unsignedContent content.length 32) content n

/-- The octets of a signed number are a `SignedContent` of it. -/
theorem signedContent_octets (n : Int64) : SignedContent n (octets n.toInt) where
  written buffer := by rw [Buffer.integer, Buffer.octets_tagged, Octets.element_append]
  read := Read.takes_integerContent n
  shortest count cursor after yields := by
    obtain ⟨_, _, short⟩ := Read.shortest_integerContent count cursor n after yields
    exact short

/-- The octets of an unsigned number are an `UnsignedContent` of it. -/
theorem unsignedContent_octets (n : UInt64) : UnsignedContent n (octets n.toNat) where
  written buffer t := by rw [Buffer.unsigned, Buffer.octets_tagged, Octets.element_append]
  top := by
    have positive := isNegative_octets (within_uint64 n)
    obtain ⟨first, rest, written⟩ := List.exists_cons_of_ne_nil (octets_ne_nil (within_uint64 n))
    rw [written, isNegative, decide_eq_false_iff_not] at positive
    exact ⟨first, rest, written, UInt8.not_le.mp positive⟩
  length_le := length_octets_le (within_uint64 n) (Nat.le_refl 8)
  read := Read.takes_unsignedContent 64 n.toNat_lt
  read32 small := Read.takes_unsignedContent 32 small

/-- Numbers as content. Every signed and every unsigned number goes out as `SignedContent` or
`UnsignedContent` of its own, from which it is read. And whatever content there is of an unsigned
number, with any number of zeros in front, it is read just if it denotes a number of so many bits,
and then as this number. -/
theorem content_exact :
    (∀ n : Int64, SignedContent n (octets n.toInt)) ∧
    (∀ n : UInt64, UnsignedContent n (octets n.toNat)) ∧
    ∀ bits, bits = 32 ∨ bits = 64 → ∀ content, content ≠ [] → ∀ offset rest, ∃ outcome,
      (Read.unsignedContent content.length bits).on ⟨offset, content ++ rest⟩
          = (outcome, ⟨offset + content.length, rest⟩) ∧
        ((∃ n, outcome = .ok n) ↔ Octets.toNat content < 2 ^ bits) ∧
        ∀ n, outcome = .ok n → n.toNat = Octets.toNat content := by
  refine ⟨signedContent_octets, unsignedContent_octets, ?_⟩
  intro bits width content some offset rest
  -- both widths are whole octets, and the bound is one on the octets that count
  obtain ⟨k, rfl, few⟩ : ∃ k, bits = 8 * k ∧ k ≤ 8 := by
    rcases width with rfl | rfl
    · exact ⟨4, rfl, by decide⟩
    · exact ⟨8, rfl, by decide⟩
  have weight : 2 ^ (8 * k) = 256 ^ k := Nat.pow_mul 2 8 k
  rw [weight]
  refine ⟨_, Read.unsignedContent_append some offset rest, ?_⟩
  by_cases fits : Octets.toNat content < 256 ^ k
  case pos =>
    rw [if_pos fits]
    refine ⟨iff_of_true ⟨_, rfl⟩ fits, ?_⟩
    rintro _ ⟨⟩
    have bound : 256 ^ k ≤ 256 ^ 8 := Nat.pow_le_pow_right (by decide) few
    exact UInt64.toNat_ofNat_of_lt' (Nat.lt_of_lt_of_le fits bound)
  case neg =>
    rw [if_neg fits]
    refine ⟨iff_of_false ?_ fits, ?_⟩
    · rintro ⟨_, ⟨⟩⟩
    · rintro _ ⟨⟩

/-- The lowest signed number, the largest unsigned one, and the largest of 32 bits behind nine
octets of zeros. -/
theorem content_exact_edges :
    let padded : Octets := List.replicate 9 0 ++ [0xFF, 0xFF, 0xFF, 0xFF]
    SignedContent (-9223372036854775808) [0x80, 0, 0, 0, 0, 0, 0, 0] ∧
      UnsignedContent 0xFFFFFFFFFFFFFFFF (0 :: List.replicate 8 0xFF) ∧
      padded ≠ [] ∧
      (Read.unsignedContent 13 32).on ⟨5, padded ++ [0x02]⟩ = (.ok 0xFFFFFFFF, ⟨18, [0x02]⟩) := by
  intro padded
  have some : padded ≠ [] := by decide
  have lowest : octets (-9223372036854775808 : Int64).toInt = [0x80, 0, 0, 0, 0, 0, 0, 0] := by
    decide +kernel
  have largest : octets (0xFFFFFFFFFFFFFFFF : UInt64).toNat = 0 :: List.replicate 8 0xFF := by
    decide +kernel
  -- the three parts at one number each: both signs at their extreme, and needless zeros
  obtain ⟨signed, unsigned, read⟩ := content_exact
  refine ⟨?_, ?_, some, ?_⟩
  · rw [← lowest]
    exact signed _
  · rw [← largest]
    exact unsigned _
  · obtain ⟨outcome, run, small, value⟩ := read 32 (.inl rfl) padded some 5 [0x02]
    obtain ⟨n, rfl⟩ := small.mpr (by decide +kernel)
    obtain rfl : n = 0xFFFFFFFF := UInt64.toNat_inj.mp ((value n rfl).trans (by decide +kernel))
    exact run

end Integer

end SnmpManager
