import Mathlib.Algebra.GroupWithZero.Nat
import SnmpManager.Text.Utf8

/-!
# Steps of decoding

One step of decoding takes an octet of ASCII as the character it is, or it takes octets none
of which is ASCII, and what it makes of these is no ASCII either. So the ASCII characters of a
text are the ASCII octets it was read from, however ill-formed the rest is.

- `Utf8.Made`: what a step makes of the front of the input (`Utf8.step_made`).
- `Utf8.ascii_of_decode?`: a text that is all ASCII was read from ASCII.
- `Utf8.decodeLossy_ascii`: ASCII is shown as it is.
-/

namespace SnmpManager.Utf8

/-! ## Code points -/

/-- The octets after the first are digits of base 64, so `codePoint` is between two multiples of
their place. -/
theorem codePoint_bounds (bits : Nat) (rest : Octets) :
    bits * 64 ^ rest.length ≤ codePoint bits rest ∧
      codePoint bits rest < (bits + 1) * 64 ^ rest.length := by
  induction rest generalizing bits with
  | nil => exact ⟨Nat.le_of_eq (Nat.mul_one bits), Nat.lt_of_lt_of_eq (Nat.lt_succ_self bits)
      (Nat.mul_one (bits + 1)).symm⟩
  | cons b rest ih =>
    have digit : b.toNat % 64 < 64 := Nat.mod_lt _ (by decide)
    obtain ⟨low, high⟩ := ih (bits * 64 + b.toNat % 64)
    rw [List.length_cons, Nat.pow_succ', ← Nat.mul_assoc, ← Nat.mul_assoc]
    exact ⟨Nat.le_trans (Nat.mul_le_mul_right _ (by omega)) low,
      Nat.lt_of_lt_of_le high (Nat.mul_le_mul_right _ (by omega))⟩

/-- What `lead?` promises for a first octet: octets that are no ASCII, and a character that is none.
The bounds on the second octet keep out the code points that are too long written and those that are
no characters. -/
theorem lead?_spec {first : UInt8} {lead : Lead} (h : lead? first = some lead) :
    0 < lead.count ∧ 0x80 ≤ lead.low ∧ ∀ b n, lead.low ≤ b → b ≤ lead.high →
      (lead.bits * 64 + b.toNat % 64) * 64 ^ (lead.count - 1) ≤ n →
      n < (lead.bits * 64 + b.toNat % 64 + 1) * 64 ^ (lead.count - 1) →
      0x80 ≤ n ∧ n.isValidChar := by
  revert h
  -- each range of first octets has bounds of its own, which are numbers
  fun_cases lead? first <;> rintro ⟨⟩
  all_goals
    refine ⟨Nat.succ_pos _, by dsimp only; decide, fun b n low high above below => ?_⟩
    simp only [UInt8.le_iff_toNat_le, UInt8.reduceToNat, ← UInt8.toNat_inj] at *
    rw [Nat.isValidChar]
    omega

/-! ## Octets that continue -/

/-- Octets that are `continuing` a sequence are no ASCII. -/
theorem high_of_mem_continuing {low high : UInt8} (h : 0x80 ≤ low) {count : Nat}
    {rest : Octets} : ∀ b ∈ rest.take (continuing low high count rest), 0x80 ≤ b := by
  induction count generalizing low high rest with
  | zero => exact fun b mem => absurd mem List.not_mem_nil
  | succ count ih =>
    cases rest with
    | nil => exact fun b mem => absurd mem List.not_mem_nil
    | cons b rest =>
      rw [continuing]
      split
      case isTrue within =>
        rw [List.take_succ_cons]
        exact List.forall_mem_cons.mpr ⟨UInt8.le_trans h within.1, ih (by decide)⟩
      case isFalse => exact fun b mem => absurd mem List.not_mem_nil

theorem continuing_le_length (low high : UInt8) (count : Nat) (rest : Octets) :
    continuing low high count rest ≤ rest.length := by
  fun_induction continuing low high count rest with
  | case1 | case2 | case4 => exact Nat.zero_le _
  | case3 low high count b rest _ ih => exact Nat.succ_le_succ ih

/-- A whole sequence has a first octet after the one that promised it, and the others behind. -/
theorem exists_cons_of_continuing {low high : UInt8} {count : Nat} {rest : Octets}
    (some : 0 < count) (whole : continuing low high count rest = count) :
    ∃ b after, rest.take count = b :: after ∧ low ≤ b ∧ b ≤ high ∧ after.length = count - 1 := by
  have enough : count ≤ rest.length := whole ▸ continuing_le_length low high count rest
  cases count with
  | zero => cases some
  | succ count =>
    cases rest with
    | nil => cases whole
    | cons b rest =>
      rw [continuing] at whole
      split at whole
      case isTrue within =>
        exact ⟨b, rest.take count, rfl, within.1, within.2,
          List.length_take_of_le (Nat.le_of_succ_le_succ enough)⟩
      case isFalse => cases whole

/-! ## Steps -/

/-- What a step makes of the front of the input. -/
inductive Made (first : UInt8) (rest : Octets) : Piece → Prop where
  | ascii (low : first < 0x80) : Made first rest (.char (Char.ofNat first.toNat) 0)
  | beyond {c : Char} {taken : Nat} (high : 0x80 ≤ first) (notAscii : 0x80 ≤ c.toNat)
      (more : ∀ b ∈ rest.take taken, 0x80 ≤ b) : Made first rest (.char c taken)
  | broken {taken : Nat} (high : 0x80 ≤ first) (more : ∀ b ∈ rest.take taken, 0x80 ≤ b) :
      Made first rest (.broken taken)

/-- Each `step` is one of the ways to be `Made`: ASCII, a character beyond it from octets beyond it,
or a broken sequence of such octets. -/
theorem step_made (first : UInt8) (rest : Octets) : Made first rest (step first rest) := by
  fun_cases step first rest
  case case1 low => exact .ascii low
  case case2 high _ =>
    exact .broken (UInt8.not_lt.mp high) fun b mem => absurd mem List.not_mem_nil
  case case3 high lead promised taken whole =>
    obtain ⟨some, low, character⟩ := lead?_spec promised
    refine .beyond (UInt8.not_lt.mp high) ?_ (high_of_mem_continuing low)
    obtain ⟨b, after, front, above, below, others⟩ := exists_cons_of_continuing some whole
    have bounds := codePoint_bounds (lead.bits * 64 + b.toNat % 64) after
    rw [others] at bounds
    -- the code point lies between the bounds of its first two octets
    obtain ⟨large, valid⟩ := character b _ above below bounds.1 bounds.2
    rw [whole, front]
    show 0x80 ≤ (Char.ofNat (codePoint (lead.bits * 64 + b.toNat % 64) after)).toNat
    rw [Char.ofNat, dif_pos valid]
    exact large
  case case4 high lead promised taken _ =>
    exact .broken (UInt8.not_lt.mp high) (high_of_mem_continuing (lead?_spec promised).2.1)

/-! ## ASCII -/

theorem toNat_ofNat_ascii {b : UInt8} (h : b < 0x80) : (Char.ofNat b.toNat).toNat = b.toNat := by
  have small : b.toNat < 0x80 := UInt8.lt_iff_toNat_lt.mp h
  have valid : b.toNat.isValidChar := .inl (by omega)
  rw [Char.ofNat, dif_pos valid]
  rfl

theorem ofNat_toNat_ascii {b : UInt8} (h : b < 0x80) :
    UInt8.ofNat (Char.ofNat b.toNat).toNat = b := by
  rw [toNat_ofNat_ascii h, UInt8.ofNat_toNat]

/-- By induction on the octets: text that is all ASCII was read by steps that took one octet of
ASCII each, as `step_made` says. -/
theorem decodeAfter?_ascii {skip : Nat} {content : Octets} {chars : List Char}
    (h : decodeAfter? skip content = some chars) (ascii : ∀ c ∈ chars, c.toNat < 0x80) :
    ∀ b ∈ content.drop skip, b < 0x80 := by
  induction content generalizing skip chars with
  | nil =>
    rw [List.drop_nil]
    exact fun b mem => absurd mem List.not_mem_nil
  | cons first rest ih =>
    cases skip with
    | succ skip => exact ih h ascii
    | zero =>
      have made := step_made first rest
      rw [decodeAfter?] at h
      generalize step first rest = piece at made h
      cases made with
      | ascii low =>
        obtain ⟨later, read, rfl⟩ := Option.map_eq_some_iff.mp h
        exact List.forall_mem_cons.mpr ⟨low, ih read (List.forall_mem_cons.mp ascii).2⟩
      | beyond _ notAscii _ =>
        obtain ⟨later, -, rfl⟩ := Option.map_eq_some_iff.mp h
        exact absurd (List.forall_mem_cons.mp ascii).1 (Nat.not_lt.mpr notAscii)
      | broken _ _ => cases h

/-- A text that is all ASCII was read by `decode?` from ASCII. -/
theorem ascii_of_decode? {content : Octets} {chars : List Char} (h : decode? content = some chars)
    (ascii : ∀ c ∈ chars, c.toNat < 0x80) : ∀ b ∈ content, b < 0x80 :=
  decodeAfter?_ascii h ascii

/-- `decodeLossy` makes a character of its own of each octet of ASCII. -/
theorem decodeLossy_ascii {content : Octets} (h : ∀ b ∈ content, b < 0x80) :
    decodeLossy content = content.map fun b => Char.ofNat b.toNat := by
  rw [decodeLossy]
  induction content with
  | nil => rfl
  | cons b content ih =>
    obtain ⟨first, rest⟩ := List.forall_mem_cons.mp h
    have alone : step b content = .char (Char.ofNat b.toNat) 0 := if_pos first
    rw [decodeAfter, alone, List.map_cons, ← ih rest]

end SnmpManager.Utf8
