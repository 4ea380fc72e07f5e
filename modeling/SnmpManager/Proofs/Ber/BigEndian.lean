import SnmpManager.Octets
import Mathlib.Tactic.Ring

/-!
# Big-endian numbers

Facts about `Octets.toNat` and `Octets.ofNat` that every length and every
integer of the codec rests on:

- `toNat_ofNat`: what is written in `count` octets reads back modulo
  `256 ^ count`;
- `toNat_dropZeros`: leading zero octets do not count;
- `length_dropZeros_le`: a number below `256 ^ k` has at most `k` octets that do.
-/

namespace SnmpManager

namespace Octets

/-- A number below 256 is the octet that `UInt8.ofNat` makes of it. -/
theorem toNat_octet {n : Nat} (h : n < 256) : (UInt8.ofNat n).toNat = n :=
  UInt8.toNat_ofNat_of_lt' h

@[simp] theorem toNat_nil : toNat [] = 0 := rfl

/-- Reading on after octets that already denote `start`: the fold of `toNat`, from any start. -/
theorem foldl_eq_shift (bytes : Octets) (start : Nat) :
    bytes.foldl (fun n b => n * 256 + b.toNat) start
      = start * 256 ^ bytes.length + toNat bytes := by
  induction bytes generalizing start with
  | nil => simp
  | cons b rest ih =>
    rw [List.foldl_cons, ih, List.length_cons]
    show _ = _ + rest.foldl (fun n b => n * 256 + b.toNat) (0 * 256 + b.toNat)
    rw [ih]
    ring

/-- The first octet has the weight of all those after it. -/
theorem toNat_cons (b : UInt8) (rest : Octets) :
    toNat (b :: rest) = b.toNat * 256 ^ rest.length + toNat rest := by
  rw [toNat, List.foldl_cons, foldl_eq_shift]
  simp

/-- Octets denote a number below the weight of one octet more. -/
theorem toNat_lt (bytes : Octets) : toNat bytes < 256 ^ bytes.length := by
  induction bytes with
  | nil => simp
  | cons b rest ih =>
    have hb : b.toNat + 1 ≤ 256 := b.toNat_lt
    calc toNat (b :: rest)
        < b.toNat * 256 ^ rest.length + 256 ^ rest.length := by
          rw [toNat_cons]
          omega
      _ = (b.toNat + 1) * 256 ^ rest.length := by ring
      _ ≤ 256 * 256 ^ rest.length := Nat.mul_le_mul_right _ hb
      _ = 256 ^ (b :: rest).length := by
          rw [List.length_cons, Nat.pow_succ, Nat.mul_comm]

/-- The low octets of a number, as `ofNat` writes them, read back. -/
theorem toNat_ofNat (count n : Nat) : toNat (ofNat count n) = n % 256 ^ count := by
  induction count generalizing n with
  | zero => simp [ofNat, Nat.mod_one]
  | succ count ih =>
    have byte : (UInt8.ofNat n).toNat = n % 256 := UInt8.toNat_ofNat'
    rw [ofNat, toNat_append_singleton, ih, byte, Nat.pow_succ, Nat.mul_comm (256 ^ count) 256,
      Nat.mod_mul]
    omega

/-- A number that fits `count` octets reads back from `ofNat count`. -/
theorem toNat_ofNat_of_lt {count n : Nat} (h : n < 256 ^ count) : toNat (ofNat count n) = n := by
  rw [toNat_ofNat, Nat.mod_eq_of_lt h]

/-! ## Leading zeros -/

/-- The octets after the leading zero octets. -/
def dropZeros (bytes : Octets) : Octets :=
  bytes.dropWhile (· == 0)

/-- Leading zeros do not count: `dropZeros` leaves `toNat` as it was. -/
theorem toNat_dropZeros (bytes : Octets) : toNat (dropZeros bytes) = toNat bytes := by
  induction bytes with
  | nil => rfl
  | cons b rest ih =>
    rw [dropZeros, List.dropWhile_cons]
    split
    case isTrue h =>
      have hb : b = 0 := by simpa using h
      rw [toNat_cons, hb]
      simpa [dropZeros] using ih
    case isFalse => rfl

/-- The octets left by `dropZeros` start with one that is not zero, so they denote a large
number. -/
theorem length_dropZeros_le {bytes : Octets} {k : Nat} (h : toNat bytes < 256 ^ k) :
    (dropZeros bytes).length ≤ k := by
  rw [← toNat_dropZeros] at h
  cases hd : dropZeros bytes with
  | nil => simp
  | cons b rest =>
    have hb : b ≠ 0 := by
      have := List.head?_dropWhile_not (fun b : UInt8 => b == 0) bytes
      rw [dropZeros] at hd
      rw [hd] at this
      simpa using this
    have hpos : 1 ≤ b.toNat := by
      rcases Nat.eq_zero_or_pos b.toNat with hz | hp
      · exact absurd (UInt8.toNat_inj.mp hz) hb
      · exact hp
    rw [hd, toNat_cons] at h
    -- the first octet alone makes the number as large as the others can count
    have hlow : 256 ^ rest.length ≤ b.toNat * 256 ^ rest.length := Nat.le_mul_of_pos_left _ hpos
    have hlt : 256 ^ rest.length < 256 ^ k := by omega
    have := (Nat.pow_lt_pow_iff_right (by decide : 1 < 256)).mp hlt
    rw [List.length_cons]
    omega

/-- How many octets `dropZeros` leaves says how large the number is, and the other way round. -/
theorem length_dropZeros_le_iff {bytes : Octets} {k : Nat} :
    (dropZeros bytes).length ≤ k ↔ toNat bytes < 256 ^ k := by
  refine ⟨fun short => ?_, length_dropZeros_le⟩
  calc toNat bytes
      = toNat (dropZeros bytes) := (toNat_dropZeros bytes).symm
    _ < 256 ^ (dropZeros bytes).length := toNat_lt _
    _ ≤ 256 ^ k := Nat.pow_le_pow_right (by decide) short

end Octets

end SnmpManager
