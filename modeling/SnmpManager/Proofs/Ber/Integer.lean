import SnmpManager.Ber.Integer
import SnmpManager.Proofs.Ber.BigEndian

/-!
# Two's complement content

`Integer.octets` writes a number of up to 65 bits in two's complement and
`Integer.ofOctets` reads it.

- `Integer.Within k n`: the number takes at most `k + 1` octets.
- `Integer.ofOctets_octets`: such a number reads back.
- `Integer.toNat_octets`: read as unsigned, a number that is not negative reads
  back as well, since the octet of zeros that may stand in front does not count.
- `Integer.within_ofOctets`: so many octets denote no number that takes more.
-/

namespace SnmpManager

namespace Integer

/-- Whether the top bit of the first octet is set. -/
def isNegative (content : Octets) : Bool :=
  match content with
  | first :: _ => first ≥ 0x80
  | [] => false

/-- Two's complement: what `ofOctets` reads is the unsigned number, less the weight of the octets if
`isNegative` says so. -/
theorem ofOctets_eq (content : Octets) :
    ofOctets content
      = Octets.toNat content - (if isNegative content then 256 ^ content.length else 0 : Int) := by
  -- the sign is in the first octet only; the others are read like those of an unsigned number
  have shift : ∀ (bytes : Octets) (start : Int),
      bytes.foldl (fun n b => n * 256 + (b.toNat : Int)) start
        = start * 256 ^ bytes.length + Octets.toNat bytes := by
    intro bytes
    induction bytes with
    | nil => simp
    | cons b rest ih =>
      intro start
      rw [List.foldl_cons, ih, Octets.toNat_cons, List.length_cons]
      push_cast
      ring
  cases content with
  | nil => rfl
  | cons first rest =>
    rw [ofOctets, shift]
    by_cases top : first ≥ 0x80
    · rw [if_pos top, isNegative, if_pos (by simpa using top)]
      ring
    · rw [if_neg top, isNegative, if_neg (by simpa using top)]
      ring

/-- The sign that `isNegative` sees is the sign of the number that is read. -/
theorem isNegative_iff (content : Octets) : isNegative content = true ↔ ofOctets content < 0 := by
  have bound : (Octets.toNat content : Int) < 256 ^ content.length := by
    exact_mod_cast Octets.toNat_lt content
  rw [ofOctets_eq]
  split
  case isTrue negative => exact iff_of_true negative (by omega)
  case isFalse positive => exact iff_of_false positive (by omega)

/-- Content that goes on with one more octet: `ofOctets` shifts what it has read. -/
theorem ofOctets_append_singleton {content : Octets} (h : content ≠ []) (b : UInt8) :
    ofOctets (content ++ [b]) = ofOctets content * 256 + b.toNat := by
  cases content with
  | nil => exact absurd rfl h
  | cons first rest => simp [ofOctets]

/-- One octet is a number from -128 to 127, the base case of `octetsWithin_spec`. -/
theorem ofOctets_singleton {n : Int} (low : -128 ≤ n) (high : n < 128) :
    ofOctets [UInt8.ofNat (n % 256).toNat] = n := by
  have value : (UInt8.ofNat (n % 256).toNat).toNat = (n % 256).toNat :=
    Octets.toNat_octet (by omega)
  have single : Octets.toNat [UInt8.ofNat (n % 256).toNat] = (n % 256).toNat := by
    rw [Octets.toNat_cons, value]
    simp
  rw [ofOctets_eq, single, isNegative]
  by_cases neg : n < 0
  · rw [if_pos (by simp only [ge_iff_le, decide_eq_true_eq, UInt8.le_iff_toNat_le, value,
      UInt8.reduceToNat]; omega)]
    simp
    omega
  · rw [if_neg (by simp only [ge_iff_le, decide_eq_true_eq, UInt8.le_iff_toNat_le, value,
      UInt8.reduceToNat]; omega)]
    omega

/-- A number that two's complement holds in `k + 1` octets. -/
def Within (k : Nat) (n : Int) : Prop :=
  -(128 * 256 ^ k) ≤ n ∧ n < 128 * 256 ^ k

/-- Every `Int64` takes eight octets at most. -/
theorem within_int64 (n : Int64) : Within 7 n.toInt :=
  ⟨n.le_toInt, n.toInt_lt⟩

/-- Every `UInt64` takes nine octets at most, one more than it has for the sign. -/
theorem within_uint64 (n : UInt64) : Within 8 n.toNat := by
  have := n.toNat_lt
  constructor <;> omega

/-- A number that is `Within` fewer octets is within more. -/
theorem Within.mono {j k : Nat} {n : Int} (h : Within j n) (le : j ≤ k) : Within k n := by
  have weight : (256 : Int) ^ j ≤ 256 ^ k := by
    exact_mod_cast Nat.pow_le_pow_right (by decide : 0 < 256) le
  obtain ⟨low, high⟩ := h
  constructor <;> omega

/-- Without its last octet, a number that is `Within` takes one octet less. -/
theorem Within.div {k : Nat} {n : Int} (h : Within (k + 1) n) : Within k (n / 256) := by
  obtain ⟨low, high⟩ := h
  rw [Int.pow_succ] at low high
  constructor <;> omega

/-- A number that is `Within k` reads back from what `octetsWithin` writes, and takes no more than
`k + 1` octets. -/
theorem octetsWithin_spec {fuel k : Nat} {n : Int} (h : Within k n) (enough : k < fuel) :
    ofOctets (octetsWithin fuel n) = n ∧ octetsWithin fuel n ≠ [] ∧
      (octetsWithin fuel n).length ≤ k + 1 := by
  induction fuel generalizing k n with
  | zero => exact absurd enough (Nat.not_lt_zero k)
  | succ fuel ih =>
    rw [octetsWithin]
    split
    case isTrue small => exact ⟨ofOctets_singleton small.1 small.2, by simp, by simp⟩
    case isFalse large =>
      -- a number of more than one octet does not fit the first alone
      obtain ⟨k, rfl⟩ : ∃ j, k = j + 1 := by
        refine Nat.exists_eq_succ_of_ne_zero fun zero => large ?_
        subst zero
        simpa [Within] using h
      obtain ⟨value, nonempty, short⟩ := ih h.div (Nat.lt_of_succ_lt_succ enough)
      have last : ((UInt8.ofNat (n % 256).toNat).toNat : Int) = n % 256 := by
        rw [Octets.toNat_octet (by omega)]
        omega
      refine ⟨?_, by simp, ?_⟩
      · rw [ofOctets_append_singleton nonempty, value, last]
        omega
      · rw [List.length_append, List.length_singleton]
        omega

/-- What `octets` writes reads back as the number, as `octetsWithin_spec` says. -/
theorem ofOctets_octets {n : Int} (h : Within 8 n) : ofOctets (octets n) = n :=
  (octetsWithin_spec h (by decide)).1

/-- Every number has some content. -/
theorem octets_ne_nil {n : Int} (h : Within 8 n) : octets n ≠ [] :=
  (octetsWithin_spec h (by decide)).2.1

/-- A number that is `Within k` takes no more than `k + 1` octets. -/
theorem length_octets_le {k : Nat} {n : Int} (h : Within k n) (small : k ≤ 8) :
    (octets n).length ≤ k + 1 :=
  (octetsWithin_spec h (Nat.lt_succ_of_le small)).2.2

/-- The content of a number that is not negative has no sign, so that `isNegative` fails for it. -/
theorem isNegative_octets {n : Nat} (h : Within 8 n) : isNegative (octets n) = false := by
  rw [Bool.eq_false_iff, Ne, isNegative_iff, ofOctets_octets h]
  omega

/-- The content of a number that is not negative denotes it for `Octets.toNat`, too. -/
theorem toNat_octets {n : Nat} (h : Within 8 n) : Octets.toNat (octets n) = n := by
  have value := ofOctets_octets h
  rw [ofOctets_eq, isNegative_octets h, if_neg Bool.false_ne_true, Int.sub_zero] at value
  exact Int.ofNat.inj value

/-- One octet and `k` more denote a number that is `Within k`, the converse of
`length_octets_le`. -/
theorem within_ofOctets (first : UInt8) (rest : Octets) :
    Within rest.length (ofOctets (first :: rest)) := by
  have others : (Octets.toNat rest : Int) < 256 ^ rest.length := by
    exact_mod_cast Octets.toNat_lt rest
  have whole : ofOctets (first :: rest) = first.toNat * 256 ^ rest.length + Octets.toNat rest
      - (if isNegative (first :: rest) then 256 ^ rest.length * 256 else 0) := by
    rw [ofOctets_eq, Octets.toNat_cons, List.length_cons, Int.pow_succ]
    push_cast
    rfl
  have weight : (0 : Int) < 256 ^ rest.length := Int.pow_pos (by decide)
  have top := first.toNat_lt
  have shifted {low high : Int} (le : low ≤ high) :
      low * 256 ^ rest.length ≤ high * 256 ^ rest.length :=
    Int.mul_le_mul_of_nonneg_right le (Int.le_of_lt weight)
  -- the first octet lies between the weights that its sign allows, and the others add less than one
  -- of its units
  rw [Within, whole]
  split
  case isTrue negative =>
    have high : 128 ≤ first.toNat := by
      simpa [isNegative, UInt8.le_iff_toNat_le] using negative
    have above := shifted (show (128 : Int) ≤ first.toNat by omega)
    have below := shifted (show (first.toNat : Int) ≤ 255 by omega)
    constructor <;> omega
  case isFalse positive =>
    have low : first.toNat < 128 := by
      simpa [isNegative, UInt8.le_iff_toNat_le] using positive
    have above := shifted (show (0 : Int) ≤ first.toNat by omega)
    have below := shifted (show (first.toNat : Int) ≤ 127 by omega)
    constructor <;> omega

end Integer

end SnmpManager
