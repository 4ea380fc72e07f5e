import SnmpManager.Proofs.Oid.OnWire

/-!
# The domain of the codec of object identifiers

Which paths can be written and read back, and how far `Oid.check` tells them apart.

- `Oid.codec_domain`: the encodable paths read back and no others do; whatever octets are
  read give an encodable path, which is not longer when it is written again.
- `Oid.check_reads_back`: a path of two arcs or more that passes the check reads back,
  unless it is `Oid.Crowded`.

The check holds the second arc under 0 and 1 to its room in the first sub-identifier,
but not the one under 2. There the sum of the two stops at the largest 32-bit number,
and what is read is the last path before those that have no room.
-/

namespace SnmpManager

namespace Oid

/-! ## Reading back -/

/-- A path reads back exactly if it is `Encodable`, since nothing else is ever read. -/
theorem ofOctets_octets_iff (oid : Oid) : ofOctets oid.octets = .ok oid ↔ oid.Encodable := by
  constructor
  · intro read
    exact encodable_of_ofOctets read
  · intro encodable
    exact ofOctets_octets encodable

/-- What `check` holds a path of two arcs or more to; a second arc under 2 is not bounded. -/
theorem check_eq_ok_iff (first second : UInt32) (rest : List UInt32) :
    check ⟨first :: second :: rest⟩ = .ok () ↔
      first ≤ 2 ∧ (first < 2 → second < 40) ∧
        (⟨first :: second :: rest⟩ : Oid).length ≤ maxArcs := by
  rw [← checkLength_eq_ok_iff]
  show (if first > 2 then _ else if first < 2 ∧ second ≥ 40 then _ else checkLength _) = _ ↔ _
  split
  case isTrue above =>
    refine ⟨fun e => (by cases e), ?_⟩
    rintro ⟨top, -, -⟩
    exact absurd above (UInt32.not_lt.mpr top)
  case isFalse top =>
    split
    case isTrue wide =>
      refine ⟨fun e => (by cases e), ?_⟩
      rintro ⟨-, narrow, -⟩
      exact absurd wide.2 (UInt32.not_le.mpr (narrow wide.1))
    -- what is left is the length, once both arcs are in their ranges
    case isFalse narrow =>
      constructor
      · intro short
        refine ⟨UInt32.not_lt.mp top, fun below => ?_, short⟩
        exact UInt32.not_le.mp fun wide => narrow ⟨below, wide⟩
      · rintro ⟨-, -, short⟩
        exact short

/-- `check` is no stricter than the codec. -/
theorem check_of_encodable {oid : Oid} (h : oid.Encodable) : oid.check = .ok () := by
  obtain ⟨arcs⟩ := oid
  match arcs, h with
  | first :: second :: rest, ⟨top, narrow, _, short⟩ =>
    exact (check_eq_ok_iff first second rest).mpr ⟨top, narrow, short⟩

/-- The `Encodable` paths are those that read back, and all that are ever read; what is read passes
the check and is not longer when it is written again. -/
theorem codec_domain :
    (∀ oid : Oid, ofOctets oid.octets = .ok oid ↔ oid.Encodable) ∧
      ∀ (content : Octets) (oid : Oid), ofOctets content = .ok oid →
        oid.Encodable ∧ oid.check = .ok () ∧ oid.octets.length ≤ content.length := by
  refine ⟨ofOctets_octets_iff, ?_⟩
  intro content oid read
  have encodable := encodable_of_ofOctets read
  exact ⟨encodable, check_of_encodable encodable, length_octets_of_ofOctets read⟩

/-- Sub-identifiers with empty groups in front, the last with the largest number there is. -/
theorem codec_domain_padded :
    let content : Octets := [0x80, 0x2B, 0x80, 0x80, 0x8F, 0xFF, 0xFF, 0xFF, 0x7F]
    let oid : Oid := ⟨[1, 3, 4294967295]⟩
    ofOctets content = .ok oid ∧ oid.check = .ok () ∧ oid.octets.length = 6 ∧
      oid.octets.length ≤ content.length := by
  intro content oid
  have read : ofOctets content = .ok oid := by decide
  obtain ⟨-, passes, short⟩ := codec_domain.2 content oid read
  exact ⟨read, passes, by decide, short⟩

/-! ## What the check lets pass -/

/-- A second arc that has no room beside a first arc of 2. -/
def Crowded (oid : Oid) : Prop :=
  match oid.arcs with
  | first :: second :: _ => first = 2 ∧ 0xFFFFFFFF - 80 < second
  | _ => False

instance : (oid : Oid) → Decidable oid.Crowded
  | ⟨[]⟩ | ⟨[_]⟩ => inferInstanceAs (Decidable False)
  | ⟨_ :: _ :: _⟩ => inferInstanceAs (Decidable (_ ∧ _))

/-- `check` accepts what is `Encodable` or `Crowded`. -/
theorem encodable_or_crowded_of_check {oid : Oid} (two : 2 ≤ oid.length)
    (h : oid.check = .ok ()) : oid.Encodable ∨ oid.Crowded := by
  obtain ⟨arcs⟩ := oid
  match arcs, two, h with
  | first :: second :: rest, _, h =>
    obtain ⟨top, narrow, short⟩ := (check_eq_ok_iff first second rest).mp h
    -- the check says nothing about the second arc under 2
    by_cases crowded : first = 2 ∧ 0xFFFFFFFF - 80 < second
    · exact .inr crowded
    · refine .inl ⟨top, narrow, ?_, short⟩
      intro same
      exact UInt32.not_lt.mp fun wide => crowded ⟨same, wide⟩

theorem not_crowded_of_encodable {oid : Oid} (h : oid.Encodable) : ¬ oid.Crowded := by
  obtain ⟨arcs⟩ := oid
  match arcs, h with
  | first :: second :: rest, ⟨_, _, wide, _⟩ =>
    rintro ⟨same, above⟩
    exact UInt32.not_lt.mpr (wide same) above

/-- A `Crowded` path is read as the last one that has room. -/
theorem onWire_of_crowded {second : UInt32} (h : 0xFFFFFFFF - 80 < second) (rest : List UInt32) :
    onWire ⟨2 :: second :: rest⟩ = ⟨2 :: (0xFFFFFFFF - 80) :: rest⟩ := by
  have full : joinFirst 2 second = 0xFFFFFFFF := by
    -- the sum of the two arcs stops at the largest number
    have above := UInt32.lt_iff_toNat_lt.mp h
    have twice : (clamp ((2 : UInt32).toNat * 40)).toNat = 80 := rfl
    simp only [UInt32.reduceToNat, UInt32.reduceSub] at above
    rw [joinFirst, twice, clamp, Nat.min_eq_right (by omega)]
    rfl
  show (⟨splitFirst (joinFirst 2 second) ++ rest⟩ : Oid) = _
  rw [full]
  rfl

/-- What a path is read as is `onWire`, for every path that is written at all. -/
theorem ofOctets_octets_of_writable {oid : Oid} (h : oid.Writable) :
    ofOctets oid.octets = .ok oid.onWire := by
  rw [← octets_onWire]
  exact ofOctets_octets (encodable_onWire h)

/-- A path that passes `check` reads back exactly if it is not `Crowded`. A crowded one is read as
the last path that has room. -/
theorem check_reads_back {oid : Oid} (two : 2 ≤ oid.length) (h : oid.check = .ok ()) :
    (ofOctets oid.octets = .ok oid ↔ ¬ oid.Crowded) ∧
      ∀ second rest, oid.arcs = 2 :: second :: rest → 0xFFFFFFFF - 80 < second →
        ofOctets oid.octets = .ok ⟨2 :: (0xFFFFFFFF - 80) :: rest⟩ := by
  constructor
  · rw [ofOctets_octets_iff]
    constructor
    · exact not_crowded_of_encodable
    · intro roomy
      exact (encodable_or_crowded_of_check two h).resolve_right roomy
  · intro second rest arcs above
    obtain rfl : oid = ⟨2 :: second :: rest⟩ := congrArg Oid.mk arcs
    obtain ⟨-, -, short⟩ := (check_eq_ok_iff 2 second rest).mp h
    rw [ofOctets_octets_of_writable ⟨List.cons_ne_nil _ _, short⟩, onWire_of_crowded above]

/-- The first path without room, and the last one with it. -/
theorem check_reads_back_edge :
    let crowded : Oid := ⟨[2, 4294967216, 7]⟩
    let last : Oid := ⟨[2, 4294967215, 7]⟩
    crowded.check = .ok () ∧ ofOctets crowded.octets = .ok last ∧
      last.check = .ok () ∧ ofOctets last.octets = .ok last := by
  intro crowded last
  have passes : crowded.check = .ok () := rfl
  have passes' : last.check = .ok () := rfl
  refine ⟨passes, ?_, passes', ?_⟩
  · exact (check_reads_back (by decide) passes).2 4294967216 [7] rfl (by decide)
  · exact (check_reads_back (by decide) passes').1.mpr (by decide)

/-- A path that passes the check and does not read back. -/
theorem check_misses_crowded :
    ¬ ∀ oid : Oid, 2 ≤ oid.length → oid.check = .ok () → ofOctets oid.octets = .ok oid := by
  intro sound
  have read := sound ⟨[2, 4294967295]⟩ (by decide) rfl
  exact absurd read (by decide)

end Oid

end SnmpManager
