/-!
# Decimal text

Reading numbers in base ten. Digits are the ten ASCII digits; leading zeros are
allowed everywhere.

- `Decimal.nat?` reads one or more digits.
- `Decimal.unsigned?` also allows one leading `+` and bounds the value.
- `Decimal.signed?` allows one leading `+` or `-` and bounds the value to a
  two's complement width, which is given by half the number of its values.
-/

namespace SnmpManager.Decimal

/-- One or more digits, as a number. -/
def nat? (text : List Char) : Option Nat :=
  if text ≠ [] ∧ text.all Char.isDigit then some (Nat.ofDigitChars 10 text 0) else none

/-- Digits after at most one `+`, with a value below `bound`. -/
def unsigned? (bound : Nat) (text : List Char) : Option Nat :=
  let digits := match text with
    | '+' :: rest => rest
    | _ => text
  (nat? digits).filter (· < bound)

/-- Half the number of values of 32 bits. -/
def half32 : Nat := 0x80000000

/-- Half the number of values of 64 bits. -/
def half64 : Nat := 0x8000000000000000

/-- Digits after at most one sign, with a value from `-half` up to, but not including, `half`. -/
def signed? (half : Nat) (text : List Char) : Option Int :=
  let value := match text with
    | '+' :: rest => (nat? rest).map Int.ofNat
    | '-' :: rest => (nat? rest).map fun n => -(n : Int)
    | _ => (nat? text).map Int.ofNat
  value.filter fun n => -(half : Int) ≤ n ∧ n < half

/-- At least `width` digits, padded with zeros on the left. -/
def padded (width n : Nat) : String :=
  let digits := Nat.toDigits 10 n
  String.ofList (List.replicate (width - digits.length) '0' ++ digits)

end SnmpManager.Decimal
