/-!
# Digits of a base

Numbers in a base of at most sixteen. The digits from ten on are letters of
either case.

- `Radix.digit?` is the value of one digit.
- `Radix.nat?` reads one or more digits.
-/

namespace SnmpManager.Radix

/-- The value of a hex digit. -/
def hexDigit? (c : Char) : Option Nat :=
  if '0' ≤ c ∧ c ≤ '9' then some (c.toNat - '0'.toNat)
  else if 'a' ≤ c ∧ c ≤ 'f' then some (c.toNat - 'a'.toNat + 10)
  else if 'A' ≤ c ∧ c ≤ 'F' then some (c.toNat - 'A'.toNat + 10)
  else none

/-- The value of a digit of a base. -/
def digit? (base : Nat) (c : Char) : Option Nat :=
  (hexDigit? c).filter (· < base)

/-- One or more digits of a base, as a number. -/
def nat? (base : Nat) (text : List Char) : Option Nat :=
  if text = [] then none
  else text.foldlM (fun n c => (digit? base c).map (n * base + ·)) 0

end SnmpManager.Radix
