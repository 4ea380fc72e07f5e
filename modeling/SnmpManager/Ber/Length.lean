import SnmpManager.Error

/-!
# Length octets

A length below 128 is one octet. A longer one is an octet that says how many
follow, at most four, and then the length in those, most significant first.

- `Length.octets` is the shortest form; of a length that four octets do not hold, it
  has the low 32 bits.
- `Length.reversed` is what an encoder puts out that writes backwards, the last octet
  first; `Length.reverse_reversed` says that it is the same form.
- `Length.read` reads either form, not necessarily the shortest, and refuses the
  indefinite form and anything above `Length.max`.
-/

namespace SnmpManager.Length

/-- The largest length that is read, far above any message. -/
def max : Nat := 0x200000

/-- How many octets the long form takes for a length, at most four. -/
def width (n : Nat) : Nat :=
  if n < 0x100 then 1 else if n < 0x10000 then 2 else if n < 0x1000000 then 3 else 4

/-- The length octets, in the order in which they are sent. -/
def octets (n : Nat) : Octets :=
  if n < 128 then [UInt8.ofNat n] else UInt8.ofNat (128 + width n) :: Octets.ofNat (width n) n

theorem length_octets (n : Nat) : (octets n).length = if n < 128 then 1 else 1 + width n := by
  unfold octets
  split
  case isTrue => rfl
  case isFalse => rw [List.length_cons, Octets.length_ofNat, Nat.add_comm]

/-- The octets of a number, the least significant first, until nothing is left of it or there are
`count`. -/
def rising : (count n : Nat) → Octets
  | 0, _ => []
  | count + 1, n => if n = 0 then [] else UInt8.ofNat n :: rising count (n / 256)

/-- The length octets, the last one first. -/
def reversed (n : Nat) : Octets :=
  if n < 128 then [UInt8.ofNat n]
  else
    let field := rising 4 n
    field ++ [UInt8.ofNat (128 + field.length)]

theorem reverse_rising (count n : Nat) :
    (rising count n).reverse = Octets.ofNat (rising count n).length n := by
  induction count generalizing n with
  | zero => rfl
  | succ count ih =>
    rw [rising]
    split
    case isTrue => rfl
    case isFalse => rw [List.reverse_cons, ih, List.length_cons, Octets.ofNat]

theorem rising_zero (count : Nat) : rising count 0 = [] := by
  cases count <;> rfl

theorem rising_succ {n : Nat} (count : Nat) (h : n ≠ 0) :
    rising (count + 1) n = UInt8.ofNat n :: rising count (n / 256) := by
  rw [rising, if_neg h]

/-- As many octets are written of a long length as its width says. -/
theorem length_rising {n : Nat} (long : 128 ≤ n) : (rising 4 n).length = width n := by
  rw [rising_succ 3 (show n ≠ 0 by omega)]
  unfold width
  split
  case isTrue one =>
    rw [show n / 256 = 0 by omega, rising_zero]
    rfl
  case isFalse =>
    rw [rising_succ 2 (show n / 256 ≠ 0 by omega)]
    split
    case isTrue two =>
      rw [show n / 256 / 256 = 0 by omega, rising_zero]
      rfl
    case isFalse =>
      rw [rising_succ 1 (show n / 256 / 256 ≠ 0 by omega)]
      split
      case isTrue three =>
        rw [show n / 256 / 256 / 256 = 0 by omega, rising_zero]
        rfl
      case isFalse =>
        rw [rising_succ 0 (show n / 256 / 256 / 256 ≠ 0 by omega)]
        rfl

/-- Read from its end, what is written backwards is the length octets. -/
theorem reverse_reversed (n : Nat) : (reversed n).reverse = octets n := by
  unfold reversed octets
  split
  case isTrue => rfl
  case isFalse long =>
    dsimp only
    rw [List.reverse_append, reverse_rising, length_rising (Nat.not_lt.mp long)]
    rfl

/-- The length at the front of some octets and how many octets it took. -/
def read : Octets → Except DecodeFault (Nat × Nat)
  | [] => .error .truncatedData
  | first :: rest =>
    if first = 0x80 then .error .indefiniteLength
    else if first < 0x80 then .ok (first.toNat, 1)
    else
      let count := first.toNat - 128
      let field := rest.take count
      let value := Octets.toNat field
      if count > 4 then .error (.lengthTooLong count)
      else if field.length < count then .error .truncatedData
      else if value > max then .error (.lengthExceedsMax value max)
      else .ok (value, 1 + count)

end SnmpManager.Length
