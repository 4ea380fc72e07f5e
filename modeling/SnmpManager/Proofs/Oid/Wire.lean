import SnmpManager.Oid.Octets
import SnmpManager.Proofs.Ber.BigEndian

/-!
# Object identifiers on the wire and back

- `Oid.Encodable` is the domain of the codec: two to 128 arcs, of which the
  first two have room in one sub-identifier.
- `Oid.readSubidentifier_append`: one sub-identifier reads back, whatever comes
  after it.
- `Oid.ofOctets_octets`: an encodable path reads back.
- `Oid.encodable_of_ofOctets`: nothing else is ever read.
- `Oid.length_octets_of_ofOctets`: what was read is not longer when it is written
  again, however many groups its sub-identifiers had.
-/

namespace SnmpManager

namespace Oid

/-- The paths that have octets of their own. -/
def Encodable (oid : Oid) : Prop :=
  match oid.arcs with
  | first :: second :: _ =>
    first ≤ 2 ∧ (first < 2 → second < 40) ∧ (first = 2 → second ≤ 0xFFFFFFFF - 80) ∧
      oid.length ≤ maxArcs
  | _ => False

instance : (oid : Oid) → Decidable oid.Encodable
  | ⟨[]⟩ | ⟨[_]⟩ => inferInstanceAs (Decidable False)
  | ⟨_ :: _ :: _⟩ => inferInstanceAs (Decidable (_ ∧ _ ∧ _ ∧ _))

/-! ## Sub-identifiers -/

/-- By induction on `fuel`: the groups before the last one add up to the number they were made
from. -/
theorem readSubidentifier_leadingGroups {fuel n : Nat} (enough : n < 128 ^ fuel)
    (small : n < 0x2000000) (offset : Nat) (tail : Octets) :
    readSubidentifier 0 offset (leadingGroups fuel n ++ tail)
      = readSubidentifier n (offset + (leadingGroups fuel n).length) tail := by
  -- the last group goes in front of the tail, so the tail has to be arbitrary
  induction fuel generalizing n tail with
  | zero =>
    obtain rfl : n = 0 := by omega
    rfl
  | succ fuel ih =>
    rw [leadingGroups]
    split
    case isTrue zero =>
      subst zero
      rfl
    case isFalse =>
      rw [Nat.pow_succ] at enough
      have group : (UInt8.ofNat (128 + n % 128)).toNat = 128 + n % 128 :=
        Octets.toNat_octet (by omega)
      have more : ¬ UInt8.ofNat (128 + n % 128) < 0x80 := by
        rw [UInt8.lt_iff_toNat_lt, group]
        simp
      have value : n / 128 * 128 + (UInt8.ofNat (128 + n % 128)).toNat % 128 = n := by
        rw [group]
        omega
      have below : ¬ n / 128 ≥ 0x2000000 := by omega
      rw [List.append_assoc, ih (by omega) (by omega), List.singleton_append, readSubidentifier,
        if_neg below]
      simp only [value, if_neg more, List.length_append, List.length_singleton, Nat.add_assoc]

theorem subidentifier_ne_nil (n : UInt32) : subidentifier n ≠ [] := by
  simp [subidentifier]

/-- `readSubidentifier` reads back what `subidentifier` writes, and leaves what comes after it. -/
theorem readSubidentifier_append (n : UInt32) (offset : Nat) (rest : Octets) :
    readSubidentifier 0 offset (subidentifier n ++ rest)
      = .ok (n, offset + (subidentifier n).length, rest) := by
  have bound := n.toNat_lt
  have last : (UInt8.ofNat (n.toNat % 128)).toNat = n.toNat % 128 :=
    Octets.toNat_octet (by omega)
  have final : UInt8.ofNat (n.toNat % 128) < 0x80 := by
    rw [UInt8.lt_iff_toNat_lt, last]
    exact Nat.mod_lt _ (by decide)
  have value : n.toNat / 128 * 128 + (UInt8.ofNat (n.toNat % 128)).toNat % 128 = n.toNat := by
    rw [last]
    omega
  have below : ¬ n.toNat / 128 ≥ 0x2000000 := by omega
  rw [subidentifier, List.append_assoc,
    readSubidentifier_leadingGroups (by omega) (by omega), List.singleton_append,
    readSubidentifier, if_neg below]
  simp only [value, if_pos final, List.length_append, List.length_singleton, Nat.add_assoc,
    UInt32.ofNat_toNat]

/-! ## Arcs -/

/-- Each arc takes an octet at least, so the octets are fuel enough for the arcs. -/
theorem length_le_flatMap_subidentifier (arcs : List UInt32) :
    arcs.length ≤ (arcs.flatMap subidentifier).length := by
  induction arcs with
  | nil => simp
  | cons arc arcs ih =>
    have := List.length_pos_iff.mpr (subidentifier_ne_nil arc)
    rw [List.flatMap_cons, List.length_append, List.length_cons]
    omega

/-- `readArcs` reads back the arcs after the first two, as long as there are not too many. -/
theorem readArcs_flatMap {arcs : List UInt32} {count fuel : Nat}
    (room : count + arcs.length ≤ maxArcs) (enough : arcs.length ≤ fuel) (offset : Nat) :
    readArcs count offset fuel (arcs.flatMap subidentifier) = .ok arcs := by
  induction arcs generalizing count fuel offset with
  | nil => cases fuel <;> rfl
  | cons arc arcs ih =>
    obtain ⟨fuel, rfl⟩ : ∃ k, fuel = k + 1 :=
      Nat.exists_eq_succ_of_ne_zero (Nat.ne_of_gt (Nat.lt_of_lt_of_le (Nat.succ_pos _) enough))
    rw [List.length_cons] at room enough
    have next := readSubidentifier_append arc offset (arcs.flatMap subidentifier)
    rw [List.flatMap_cons]
    obtain ⟨b, rest, content⟩ : ∃ b rest,
        subidentifier arc ++ arcs.flatMap subidentifier = b :: rest :=
      List.exists_cons_of_ne_nil (by simp [subidentifier])
    have fits : ¬ count + 1 > maxArcs := by omega
    rw [content] at next ⊢
    rw [readArcs, next]
    simp only [if_neg fits]
    rw [ih (by omega) (by omega)]

/-- `joinFirst` holds the sum of its two arcs, which is not cut off. -/
theorem toNat_joinFirst (first second : UInt32)
    (room : first.toNat * 40 + second.toNat < 2 ^ 32) :
    (joinFirst first second).toNat = first.toNat * 40 + second.toNat := by
  have inner : (clamp (first.toNat * 40)).toNat = first.toNat * 40 := by
    rw [clamp, UInt32.toNat_ofNat']
    omega
  rw [joinFirst, inner, clamp, UInt32.toNat_ofNat']
  omega

/-- What `splitFirst` yields: two arcs in their ranges, which add up to the first sub-identifier. -/
theorem splitFirst_spec (n : UInt32) :
    ∃ first second, splitFirst n = [first, second] ∧ first ≤ 2 ∧ (first < 2 → second < 40) ∧
      first.toNat * 40 + second.toNat = n.toNat := by
  -- the reader tells three ranges apart
  rw [splitFirst]
  split
  case isTrue low => exact ⟨0, n, rfl, by decide, fun _ => low, by simp⟩
  case isFalse ge =>
    have ge := UInt32.not_lt.mp ge
    split
    case isTrue low =>
      have difference := UInt32.toNat_sub_of_le _ _ ge
      have ge := UInt32.le_iff_toNat_le.mp ge
      have low := UInt32.lt_iff_toNat_lt.mp low
      simp only [UInt32.reduceToNat] at difference ge low
      refine ⟨1, n - 40, rfl, by decide, fun _ => ?_, ?_⟩
      · rw [UInt32.lt_iff_toNat_lt, difference]
        simp only [UInt32.reduceToNat]
        omega
      · rw [difference]
        simp only [UInt32.reduceToNat]
        omega
    case isFalse ge' =>
      have ge' := UInt32.not_lt.mp ge'
      have difference := UInt32.toNat_sub_of_le _ _ ge'
      have ge' := UInt32.le_iff_toNat_le.mp ge'
      simp only [UInt32.reduceToNat] at difference ge'
      refine ⟨2, n - 80, rfl, by decide, fun two => absurd two (by decide), ?_⟩
      rw [difference]
      simp only [UInt32.reduceToNat]
      omega

/-- `splitFirst` takes apart what `joinFirst` put together, as long as the arcs are in the ranges
that `Encodable` has. -/
theorem splitFirst_joinFirst {first second : UInt32} (top : first ≤ 2)
    (narrow : first < 2 → second < 40) (wide : first = 2 → second ≤ 0xFFFFFFFF - 80) :
    splitFirst (joinFirst first second) = [first, second] := by
  obtain ⟨first', second', split, top', narrow', sum⟩ := splitFirst_spec (joinFirst first second)
  simp only [UInt32.le_iff_toNat_le, UInt32.lt_iff_toNat_lt, ← UInt32.toNat_inj,
    UInt32.reduceToNat, UInt32.reduceSub] at top narrow wide top' narrow'
  have room : first.toNat * 40 + second.toNat < 2 ^ 32 := by omega
  rw [toNat_joinFirst first second room] at sum
  -- arcs in their ranges are known from their sum
  have same : first' = first := by
    rw [← UInt32.toNat_inj]
    omega
  have same' : second' = second := by
    rw [← UInt32.toNat_inj]
    omega
  rw [split, same, same']

/-- `joinFirst` puts together what `splitFirst` took apart. -/
theorem joinFirst_splitFirst (n : UInt32) :
    ∃ first second, splitFirst n = [first, second] ∧ joinFirst first second = n := by
  obtain ⟨first, second, split, -, -, sum⟩ := splitFirst_spec n
  have room : first.toNat * 40 + second.toNat < 2 ^ 32 := by
    rw [sum]
    exact n.toNat_lt
  refine ⟨first, second, split, ?_⟩
  rw [← UInt32.toNat_inj, toNat_joinFirst first second room, sum]

/-- An `Encodable` path reads back. -/
theorem ofOctets_octets {oid : Oid} (h : oid.Encodable) : ofOctets oid.octets = .ok oid := by
  obtain ⟨arcs⟩ := oid
  match arcs, h with
  | first :: second :: rest, ⟨top, narrow, wide, short⟩ =>
    have room : 2 + rest.length ≤ maxArcs := by
      simp only [length, List.length_cons] at short
      omega
    have enough : rest.length
        ≤ (subidentifier (joinFirst first second) ++ rest.flatMap subidentifier).length := by
      have := length_le_flatMap_subidentifier rest
      rw [List.length_append]
      omega
    have nonempty : octets ⟨first :: second :: rest⟩ ≠ [] := by
      simp [octets, subidentifier]
    rw [ofOctets, if_neg nonempty]
    simp only [octets, readSubidentifier_append]
    rw [readArcs_flatMap room enough, splitFirst_joinFirst top narrow wide]
    rfl

/-- An `Encodable` path has octets. -/
theorem octets_ne_nil {oid : Oid} (h : oid.Encodable) : oid.octets ≠ [] := by
  intro none
  have read := ofOctets_octets h
  rw [none] at read
  cases read

/-! ## What is read -/

/-- Inversion of `readArcs`: what a reader of arcs that came to an end has done first. -/
theorem readArcs_cons_eq_ok {count offset fuel : Nat} {b : UInt8} {content : Octets}
    {arcs : List UInt32} (h : readArcs count offset (fuel + 1) (b :: content) = .ok arcs) :
    ∃ arc next rest more, readSubidentifier 0 offset (b :: content) = .ok (arc, next, rest) ∧
      count + 1 ≤ maxArcs ∧ readArcs (count + 1) next fuel rest = .ok more ∧
      arcs = arc :: more := by
  rw [readArcs] at h
  split at h
  case h_1 => cases h
  case h_2 arc next rest first =>
    split at h
    case isTrue => cases h
    case isFalse fits =>
      split at h
      case h_1 => cases h
      case h_2 more read =>
        cases h
        exact ⟨arc, next, rest, more, first, Nat.not_lt.mp fits, read, rfl⟩

/-- Inversion of `ofOctets`: what a reader of a path has read. -/
theorem ofOctets_eq_ok {content : Octets} {oid : Oid} (h : ofOctets content = .ok oid) :
    ∃ first offset rest arcs, readSubidentifier 0 0 content = .ok (first, offset, rest) ∧
      readArcs 2 offset content.length rest = .ok arcs ∧ oid = ⟨splitFirst first ++ arcs⟩ := by
  rw [ofOctets] at h
  split at h
  case isTrue => cases h
  case isFalse =>
    split at h
    case h_1 => cases h
    case h_2 first offset rest joined =>
      split at h
      case h_1 => cases h
      case h_2 arcs read =>
        cases h
        exact ⟨first, offset, rest, arcs, joined, read, rfl⟩

/-- `readArcs` reads arcs only as long as there are not too many. -/
theorem length_of_readArcs {count offset fuel : Nat} {content : Octets} {arcs : List UInt32}
    (room : count ≤ maxArcs) (h : readArcs count offset fuel content = .ok arcs) :
    count + arcs.length ≤ maxArcs := by
  induction fuel generalizing count offset content arcs with
  | zero => cases content <;> cases h <;> exact room
  | succ fuel ih =>
    cases content with
    | nil =>
      cases h
      exact room
    | cons b content =>
      obtain ⟨arc, next, rest, more, -, fits, read, rfl⟩ := readArcs_cons_eq_ok h
      have few := ih fits read
      rw [List.length_cons]
      omega

/-- The two arcs that `splitFirst` yields have room in one sub-identifier. -/
theorem splitFirst_encodable (n : UInt32) {arcs : List UInt32} (short : 2 + arcs.length ≤ maxArcs) :
    Encodable ⟨splitFirst n ++ arcs⟩ := by
  obtain ⟨first, second, split, top, narrow, sum⟩ := splitFirst_spec n
  have few : length ⟨[first, second] ++ arcs⟩ ≤ maxArcs := by
    rwa [length, List.length_append]
  rw [split]
  refine ⟨top, narrow, ?_, few⟩
  rintro rfl
  -- the sum of the two arcs is a number of 32 bits
  have bound := n.toNat_lt
  rw [UInt32.le_iff_toNat_le]
  simp only [UInt32.reduceToNat, UInt32.reduceSub] at sum ⊢
  omega

/-- Whatever is read is `Encodable`. -/
theorem encodable_of_ofOctets {content : Octets} {oid : Oid} (h : ofOctets content = .ok oid) :
    oid.Encodable := by
  obtain ⟨first, offset, rest, arcs, -, read, rfl⟩ := ofOctets_eq_ok h
  exact splitFirst_encodable first (length_of_readArcs (by decide) read)

/-! ## How long it is when it is written again -/

/-- `leadingGroups` writes as many groups as the number needs. -/
theorem length_leadingGroups_le {fuel n k : Nat} (small : n < 128 ^ k) :
    (leadingGroups fuel n).length ≤ k := by
  induction k generalizing fuel n with
  | zero =>
    obtain rfl : n = 0 := by omega
    cases fuel <;> exact Nat.le_refl 0
  | succ k ih =>
    cases fuel with
    | zero => exact Nat.zero_le _
    | succ fuel =>
      rw [leadingGroups]
      split
      case isTrue => exact Nat.zero_le _
      case isFalse =>
        rw [Nat.pow_succ] at small
        rw [List.length_append, List.length_singleton]
        exact Nat.succ_le_succ (ih (by omega))

theorem length_subidentifier_le {n : UInt32} {k : Nat} (small : n.toNat < 128 ^ (k + 1)) :
    (subidentifier n).length ≤ k + 1 := by
  rw [Nat.pow_succ] at small
  rw [subidentifier, List.length_append, List.length_singleton]
  exact Nat.succ_le_succ (length_leadingGroups_le (by omega))

/-- A sub-identifier has the octets it was read from, or fewer: a reader of `k` groups knows a
number of `k` groups at most. -/
theorem length_subidentifier_of_read {value offset k : Nat} {content : Octets} {n : UInt32}
    {after : Nat} {rest : Octets} (small : value < 128 ^ k)
    (h : readSubidentifier value offset content = .ok (n, after, rest)) :
    (subidentifier n).length + rest.length ≤ k + content.length := by
  -- each octet adds a group to what was read before it, so the number of those is arbitrary
  induction content generalizing value offset k with
  | nil => cases h
  | cons b content ih =>
    rw [readSubidentifier] at h
    split at h
    case isTrue => cases h
    case isFalse =>
      have more : value * 128 + b.toNat % 128 < 128 ^ (k + 1) := by
        rw [Nat.pow_succ]
        omega
      dsimp only at h
      rw [List.length_cons]
      split at h
      case isTrue =>
        cases h
        have whole : (UInt32.ofNat (value * 128 + b.toNat % 128)).toNat < 128 ^ (k + 1) := by
          rw [UInt32.toNat_ofNat']
          exact Nat.lt_of_le_of_lt (Nat.mod_le _ _) more
        have few := length_subidentifier_le whole
        omega
      case isFalse =>
        have few := ih more h
        omega

/-- The arcs after the first two have the octets they were read from, or fewer. -/
theorem length_flatMap_of_readArcs {count offset fuel : Nat} {content : Octets}
    {arcs : List UInt32} (h : readArcs count offset fuel content = .ok arcs) :
    (arcs.flatMap subidentifier).length ≤ content.length := by
  induction fuel generalizing count offset content arcs with
  | zero => cases content <;> cases h <;> exact Nat.zero_le _
  | succ fuel ih =>
    cases content with
    | nil =>
      cases h
      exact Nat.le_refl 0
    | cons b content =>
      obtain ⟨arc, next, rest, more, first, -, read, rfl⟩ := readArcs_cons_eq_ok h
      have front := length_subidentifier_of_read (k := 0) Nat.one_pos first
      have back := ih read
      rw [List.flatMap_cons, List.length_append]
      omega

/-- The path that `splitFirst` makes of a first sub-identifier is written with it. -/
theorem octets_splitFirst (n : UInt32) (arcs : List UInt32) :
    octets ⟨splitFirst n ++ arcs⟩ = subidentifier n ++ arcs.flatMap subidentifier := by
  obtain ⟨first, second, split, joined⟩ := joinFirst_splitFirst n
  rw [split]
  show subidentifier (joinFirst first second) ++ arcs.flatMap subidentifier = _
  rw [joined]

/-- A path that `ofOctets` read is not longer when it is written again. -/
theorem length_octets_of_ofOctets {content : Octets} {oid : Oid} (h : ofOctets content = .ok oid) :
    oid.octets.length ≤ content.length := by
  obtain ⟨first, offset, rest, arcs, joined, read, rfl⟩ := ofOctets_eq_ok h
  have front := length_subidentifier_of_read (k := 0) Nat.one_pos joined
  have back := length_flatMap_of_readArcs read
  rw [octets_splitFirst, List.length_append]
  omega

end Oid

end SnmpManager
