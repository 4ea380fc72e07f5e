import SnmpManager.Ber.Length
import SnmpManager.Proofs.Ber.BigEndian

/-!
# Length octets

A length has many forms, of which one is written: octets with zeros in front of the
number denote it as well. All of them are read, whatever comes after them, unless the
length is above `Length.max`; then it is refused by name.

- `Length.Denotes`: length octets of a definite form, not necessarily the shortest, and
  the length they denote.
- `Length.Denotes.read_eq`, `Length.read_eq_ok_iff`: what is read is what they denote.
- `Length.denotes_octets`, `Length.Denotes.length_octets_le`: what is written denotes the
  length, and nothing shorter does.
- `Length.read_append`, `Length.read_of_append`: what comes after length octets does not
  matter, unless there are too few of them.
- `Length.field_exact`: all of this for the octets that an encoder puts out, the last
  one first.
-/

namespace SnmpManager

namespace Length

/-! ## Lengths in any definite form -/

/-- Octets of a definite form, and the length they denote: one octet, or one that counts the one to
four after it. -/
inductive Denotes : Octets → Nat → Prop where
  | short {first : UInt8} (low : first < 0x80) : Denotes [first] first.toNat
  | long {field : Octets} (some : field ≠ []) (few : field.length ≤ 4) :
    Denotes (UInt8.ofNat (128 + field.length) :: field) (Octets.toNat field)

/-- An octet that counts the octets of `field` after it, as a number. -/
theorem toNat_count {field : Octets} (few : field.length ≤ 4) :
    (UInt8.ofNat (128 + field.length)).toNat = 128 + field.length :=
  Octets.toNat_octet (by omega)

/-- It is none of the octets that are a length themselves. -/
theorem count_not_low {field : Octets} (few : field.length ≤ 4) :
    ¬ UInt8.ofNat (128 + field.length) < 0x80 := by
  rw [UInt8.lt_iff_toNat_lt, toNat_count few]
  simp

/-- It is not the octet of the indefinite form either. -/
theorem count_ne {field : Octets} (some : field ≠ []) (few : field.length ≤ 4) :
    UInt8.ofNat (128 + field.length) ≠ 0x80 := by
  have filled := List.length_pos_iff.mpr some
  intro same
  have value := congrArg UInt8.toNat same
  rw [toNat_count few, show (0x80 : UInt8).toNat = 128 from rfl] at value
  omega

/-- An octet that is neither a length nor the indefinite form counts octets after it. -/
theorem eq_count {first : UInt8} {field : Octets} (high : ¬ first < 0x80) (definite : first ≠ 0x80)
    (counted : field.length = first.toNat - 128) :
    first = UInt8.ofNat (128 + field.length) ∧ field ≠ [] := by
  have bound : 128 ≤ first.toNat := by
    rw [UInt8.lt_iff_toNat_lt, Nat.not_lt] at high
    exact high
  refine ⟨by rw [counted, Nat.add_sub_cancel' bound, UInt8.ofNat_toNat], ?_⟩
  rintro rfl
  rw [List.length_nil] at counted
  exact definite (UInt8.toNat_inj.mp (show first.toNat = 128 by omega))

/-- Octets that `Denotes` relates to a length are one to five. -/
theorem Denotes.length_bounds {header : Octets} {n : Nat} (h : Denotes header n) :
    1 ≤ header.length ∧ header.length ≤ 5 := by
  cases h with
  | short => exact ⟨Nat.le_refl 1, Nat.le_add_left 1 4⟩
  | long _ few => exact ⟨Nat.le_add_left 1 _, Nat.succ_le_succ few⟩

/-! ## What is read -/

/-- What `Denotes` relates to a length is read as it, whatever comes after, unless the length is
above `max`. -/
theorem Denotes.read_eq {header : Octets} {n : Nat} (h : Denotes header n) (rest : Octets) :
    read (header ++ rest)
      = if n > max then .error (.lengthExceedsMax n max) else .ok (n, header.length) := by
  cases h with
  | @short first low =>
    have ne : first ≠ 0x80 := by
      rintro rfl
      exact absurd low (by decide)
    have fits : ¬ first.toNat > max := by
      rw [UInt8.lt_iff_toNat_lt] at low
      exact Nat.not_lt.mpr (Nat.le_trans (Nat.le_of_lt low) (by decide))
    rw [List.singleton_append, read, if_neg ne, if_pos low, if_neg fits, List.length_singleton]
  | @long field some few =>
    have count : 128 + field.length - 128 = field.length := by omega
    rw [List.cons_append, read, if_neg (count_ne some few), if_neg (count_not_low few)]
    simp only [toNat_count few, count, List.take_left', Nat.not_lt.mpr few, Nat.lt_irrefl,
      if_false, List.length_cons, Nat.add_comm 1]

/-- A length up to `max` is read from any octets that denote it. -/
theorem Denotes.read_append {header : Octets} {n : Nat} (h : Denotes header n) (fits : n ≤ max)
    (rest : Octets) : read (header ++ rest) = .ok (n, header.length) := by
  rw [h.read_eq rest, if_neg (Nat.not_lt.mpr fits)]

/-- Whatever length `read` finds, octets that `Denotes` relates to it stand at the front. -/
theorem read_eq_ok_iff {data : Octets} {n used : Nat} : read data = .ok (n, used) ↔
    ∃ header rest, data = header ++ rest ∧ Denotes header n ∧ header.length = used ∧ n ≤ max := by
  constructor
  case mpr =>
    rintro ⟨header, rest, rfl, denotes, rfl, fits⟩
    exact denotes.read_append fits rest
  case mp =>
    intro h
    cases data with
    | nil => cases h
    | cons first rest =>
      rw [read] at h
      dsimp only at h
      -- of the six cases of the reader, two yield a length
      split_ifs at h with indefinite low many few large <;>
        simp only [Except.ok.injEq, Prod.mk.injEq] at h
      case pos =>
        obtain ⟨rfl, rfl⟩ := h
        have fits : first.toNat ≤ max :=
          Nat.le_trans (Nat.le_of_lt (UInt8.lt_iff_toNat_lt.mp low)) (by decide)
        exact ⟨[first], rest, rfl, .short low, rfl, fits⟩
      case neg =>
        obtain ⟨rfl, rfl⟩ := h
        have counted : (rest.take (first.toNat - 128)).length = first.toNat - 128 :=
          Nat.le_antisymm (List.length_take_le _ _) (Nat.not_lt.mp few)
        obtain ⟨isCount, some⟩ := eq_count low indefinite counted
        have form := Denotes.long some (counted.trans_le (Nat.not_lt.mp many))
        rw [← isCount] at form
        refine ⟨first :: rest.take (first.toNat - 128), rest.drop (first.toNat - 128),
          ?_, form, ?_, Nat.not_lt.mp large⟩
        · rw [List.cons_append, List.take_append_drop]
        · rw [List.length_cons, counted, Nat.add_comm]

/-- Length octets are some of those ahead, and denote a length up to `max`. -/
theorem bounds_of_read {data : Octets} {n used : Nat} (h : read data = .ok (n, used)) :
    1 ≤ used ∧ used ≤ 5 ∧ used ≤ data.length ∧ n ≤ max := by
  obtain ⟨header, rest, rfl, denotes, rfl, fits⟩ := read_eq_ok_iff.mp h
  have there : header.length ≤ (header ++ rest).length := by
    rw [List.length_append]
    omega
  exact ⟨denotes.length_bounds.1, denotes.length_bounds.2, there, fits⟩

/-- Length octets are enough for `read`: without what comes after, the same is read. -/
theorem read_of_append {data more : Octets} {n used : Nat}
    (h : read (data ++ more) = .ok (n, used)) (there : used ≤ data.length) :
    read data = .ok (n, used) := by
  obtain ⟨header, rest, parts, denotes, rfl, fits⟩ := read_eq_ok_iff.mp h
  have front : header <+: data ++ more := ⟨rest, parts.symm⟩
  obtain ⟨between, rfl⟩ :=
    List.prefix_of_prefix_length_le front (List.prefix_append data more) there
  exact denotes.read_append fits between

/-- What comes after length octets does not matter to `read`, unless there are too few of them. -/
theorem read_append {data : Octets} (whole : read data ≠ .error .truncatedData) (more : Octets) :
    read (data ++ more) = read data := by
  cases data with
  | nil => exact absurd rfl whole
  | cons first rest =>
    rw [read] at whole
    rw [List.cons_append, read, read]
    dsimp only at whole ⊢
    by_cases enough : first.toNat - 128 ≤ rest.length
    case pos => rw [List.take_append_of_le_length enough]
    case neg =>
      -- the octets that are counted are not all there, so none of them was looked at
      have missing : (rest.take (first.toNat - 128)).length < first.toNat - 128 := by
        rw [List.length_take]
        omega
      rw [if_pos missing] at whole
      split_ifs at whole ⊢
      all_goals first | rfl | exact absurd rfl whole

/-! ## What is written -/

/-- The long form has one octet at least, by `width`. -/
theorem width_pos (n : Nat) : 1 ≤ width n := by
  unfold width
  split_ifs <;> decide

/-- The long form has four octets at most, by `width`. -/
theorem width_le (n : Nat) : width n ≤ 4 := by
  unfold width
  split_ifs <;> decide

/-- The octets of the long form are enough for the length: it is below `256 ^ width n`. -/
theorem lt_pow_width {n : Nat} (h : n < 2 ^ 32) : n < 256 ^ width n := by
  unfold width
  split_ifs <;> omega

/-- They are no more than are enough: `width` is the least such number. -/
theorem width_le_of_lt_pow {n k : Nat} (some : 1 ≤ k) (h : n < 256 ^ k) : width n ≤ k := by
  match k with
  | 1 | 2 | 3 =>
    unfold width
    split_ifs <;> omega
  | k + 4 => exact Nat.le_trans (width_le n) (Nat.le_add_left 4 k)

/-- What `octets` writes `Denotes` the length, unless four octets do not hold it. -/
theorem denotes_octets {n : Nat} (h : n < 2 ^ 32) : Denotes (octets n) n := by
  unfold octets
  split
  case isTrue short =>
    have value : (UInt8.ofNat n).toNat = n := Octets.toNat_octet (by omega)
    have low : UInt8.ofNat n < 0x80 := by
      rw [UInt8.lt_iff_toNat_lt, value]
      exact short
    have form := Denotes.short low
    rwa [value] at form
  case isFalse =>
    have counted := Octets.length_ofNat (width n) n
    have some : Octets.ofNat (width n) n ≠ [] :=
      List.length_pos_iff.mp (counted.symm ▸ width_pos n)
    have field := Denotes.long some (counted.symm ▸ width_le n)
    rwa [counted, Octets.toNat_ofNat_of_lt (lt_pow_width h)] at field

/-- No octets that `Denotes` relates to a length are fewer than those that `octets` writes. -/
theorem Denotes.length_octets_le {header : Octets} {n : Nat} (h : Denotes header n) :
    (octets n).length ≤ header.length := by
  rw [length_octets]
  split
  case isTrue => exact h.length_bounds.1
  case isFalse long =>
    cases h with
    | short low => exact absurd (UInt8.lt_iff_toNat_lt.mp low) long
    | @long field some few =>
      have enough := width_le_of_lt_pow (List.length_pos_iff.mpr some) (Octets.toNat_lt field)
      rw [List.length_cons]
      omega

/-- A length of 32 bits reads back from `octets`, unless it is above `max`. -/
theorem read_octets_append {n : Nat} (h : n < 2 ^ 32) (rest : Octets) :
    read (octets n ++ rest)
      = if n > max then .error (.lengthExceedsMax n max) else .ok (n, (octets n).length) :=
  (denotes_octets h).read_eq rest

/-- What `max` allows, 32 bits hold. -/
theorem lt_of_le_max {n : Nat} (h : n ≤ max) : n < 2 ^ 32 :=
  Nat.lt_of_le_of_lt h (by decide)

/-- A length up to `max` reads back from `octets`, whatever comes after it. -/
theorem read_octets {n : Nat} (h : n ≤ max) (rest : Octets) :
    read (octets n ++ rest) = .ok (n, (octets n).length) :=
  (denotes_octets (lt_of_le_max h)).read_append h rest

/-- Length octets, put out by `reversed` and read forwards by `read`. A length up to `max` reads
back, whatever comes after it, and from no fewer octets; a longer one of 32 bits is refused by name.
And whatever length is read from any octets is at most `max`, and took one to five of those that are
there. -/
theorem field_exact :
    (∀ n ≤ max,
      (∀ rest, read ((reversed n).reverse ++ rest) = .ok (n, (reversed n).length)) ∧
      ∀ data used, read data = .ok (n, used) → (reversed n).length ≤ used) ∧
    (∀ n, max < n → n < 2 ^ 32 → ∀ rest,
      read ((reversed n).reverse ++ rest) = .error (.lengthExceedsMax n max)) ∧
    ∀ data n used, read data = .ok (n, used) →
      n ≤ max ∧ 1 ≤ used ∧ used ≤ 5 ∧ used ≤ data.length := by
  -- the encoder puts the octets out last one first
  have forwards (n : Nat) : (reversed n).length = (octets n).length := by
    rw [← reverse_reversed, List.length_reverse]
  refine ⟨fun n taken => ⟨fun rest => ?_, ?_⟩, ?_, ?_⟩
  · rw [reverse_reversed, forwards, read_octets taken]
  · intro data used yields
    obtain ⟨header, rest, rfl, denotes, rfl, -⟩ := read_eq_ok_iff.mp yields
    rw [forwards]
    exact denotes.length_octets_le
  · intro n large small rest
    rw [reverse_reversed, read_octets_append small, if_pos large]
  · intro data n used yields
    obtain ⟨some, few, there, fits⟩ := bounds_of_read yields
    exact ⟨fits, some, few, there⟩

/-- The largest length that is taken, the first that is not, and a length with two zeros in front of
what would do. -/
theorem field_exact_edges :
    0x200000 ≤ max ∧
    read ([0x83, 0x20, 0x00, 0x00] ++ [0xFF]) = .ok (0x200000, 4) ∧
    max < 0x200001 ∧ 0x200001 < 2 ^ 32 ∧
    read ([0x83, 0x20, 0x00, 0x01] ++ [0xFF]) = .error (.lengthExceedsMax 0x200001 max) ∧
    0x80 ≤ max ∧ read [0x83, 0x00, 0x00, 0x80, 0xFF] = .ok (0x80, 4) ∧ (reversed 0x80).length ≤ 4 ∧
    4 ≤ [0x83, 0x00, 0x00, 0x80, 0xFF].length := by
  have taken : 0x200000 ≤ max := by decide
  have padded : read [0x83, 0x00, 0x00, 0x80, 0xFF] = .ok (0x80, 4) := by decide
  obtain ⟨back, refused, bounds⟩ := field_exact
  exact ⟨taken, (back 0x200000 taken).1 [0xFF], by decide, by decide,
    refused 0x200001 (by decide) (by decide) [0xFF], by decide, padded,
    (back 0x80 (by decide)).2 _ 4 padded, (bounds _ _ _ padded).2.2.2⟩

end Length

end SnmpManager
