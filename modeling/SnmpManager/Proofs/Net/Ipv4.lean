import SnmpManager.Net.Ipv4
import SnmpManager.Proofs.Text.Decimal

/-!
# IPv4 addresses read back

Each number of an address is written with one to three digits and no leading zero, which is
what the reader demands; so `Ipv4.text` is read back by `Ipv4.parse?`, whatever the address.

- `Ipv4.readPart?_toDigits`: a number is cut off as it was written.
- `Ipv4.read?_chars`: an address is read from the front of a text, up to what is no digit.
-/

namespace SnmpManager.Ipv4

open Decimal

/-- Dotted decimal. -/
def chars (addr : Ipv4) : List Char :=
  Nat.toDigits 10 addr.a.toNat ++ '.' :: (Nat.toDigits 10 addr.b.toNat
    ++ '.' :: (Nat.toDigits 10 addr.c.toNat ++ '.' :: Nat.toDigits 10 addr.d.toNat))

theorem toList_text (addr : Ipv4) : addr.text.toList = addr.chars := by
  show (toString addr.a.toNat ++ "." ++ toString addr.b.toNat ++ "." ++
    toString addr.c.toNat ++ "." ++ toString addr.d.toNat).toList = _
  simp only [String.toList_append, toList_toString_nat, List.append_assoc]
  rfl

/-- A number below 256 is read by `readPart?` from its digits, up to what is no digit. -/
theorem readPart?_toDigits (n : UInt8) {rest : List Char} (ends : EndsDigits rest) :
    readPart? (Nat.toDigits 10 n.toNat ++ rest) = some (n, rest) := by
  have top := n.toNat_lt
  have short : (Nat.toDigits 10 n.toNat).length ≤ 3 :=
    (Nat.length_toDigits_le_iff (by decide) (by decide)).mpr (by omega)
  have fine : ¬ (Nat.toDigits 10 n.toNat = [] ∨ (Nat.toDigits 10 n.toNat).length > 3 ∨
      ((Nat.toDigits 10 n.toNat).head? = some '0' ∧ (Nat.toDigits 10 n.toNat).length > 1) ∨
      n.toNat > 255) := by
    rintro (none | long | zero | large)
    · exact Nat.toDigits_ne_nil none
    · omega
    · exact not_leadingZero n.toNat zero
    · omega
  rw [readPart?]
  simp only [takeWhile_toDigits n.toNat ends, dropWhile_toDigits n.toNat ends,
    Nat.ofDigitChars_ten_toDigits, if_neg fine, UInt8.ofNat_toNat]

theorem readNext?_toDigits (n : UInt8) {rest : List Char} (ends : EndsDigits rest) :
    readNext? ('.' :: (Nat.toDigits 10 n.toNat ++ rest)) = some (n, rest) :=
  readPart?_toDigits n ends

/-- An address is read from its `chars`, and what comes after it is left. -/
theorem read?_chars (addr : Ipv4) {rest : List Char} (ends : EndsDigits rest) :
    read? (addr.chars ++ rest) = some (addr, rest) := by
  have dot (after : List Char) : EndsDigits ('.' :: after) := endsDigits_cons rfl after
  rw [chars, read?]
  simp only [List.append_assoc, List.cons_append, readPart?_toDigits _ (dot _),
    readNext?_toDigits _ (dot _), readNext?_toDigits _ ends, Option.bind_eq_bind,
    Option.bind_some]
  rfl

/-- `Ipv4.parse?` reads back what `Ipv4.text` writes. -/
theorem parse?_text (addr : Ipv4) : parse? addr.text.toList = some addr := by
  have read := read?_chars addr endsDigits_nil
  rw [List.append_nil] at read
  rw [toList_text, parse?, read]

end SnmpManager.Ipv4
