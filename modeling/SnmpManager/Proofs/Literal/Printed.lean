import SnmpManager.Print.Value
import SnmpManager.Proofs.Literal.Octets
import SnmpManager.Proofs.Mib.Rendered
import SnmpManager.Proofs.Net.Ipv4

/-!
# Printed values typed back

Without types in front, what is printed for a value is a literal of its type: typed on the
command line it denotes the same value (`Literal.parse_print`).

- `Value.Typable`: the values this holds of, with the letter of their type. An octet string has
  to be printed in hex, and an object with at most one name in front.

The others have no such literal: there is no letter for gauges, 64-bit counters, exceptions,
opaque and unknown values, a counter above the largest signed number is out of range, and a
string shown as text stands between quotes that would be typed as part of it.
-/

namespace SnmpManager

/-- The values whose text is a literal of the type of a letter. -/
inductive Value.Typable (options : OutputOptions) : Char → Value → Prop where
  | ipAddress (addr : Ipv4) : Typable options 'a' (.ipAddress addr)
  | integer (n : Int64) : Typable options 'i' (.integer n)
  | timeTicks (n : UInt32) : Typable options 't' (.timeTicks n)
  | counter32 (n : UInt32) (small : n < 0x80000000) : Typable options 'c' (.counter32 n)
  | null : Typable options 'n' .null
  | objectIdentifier (oid : Oid) (filled : 1 ≤ oid.length) (short : oid.length ≤ Oid.maxArcs)
      (lookup : options.lookup = .short ∨ options.lookup = .numeric) :
      Typable options 'o' (.objectIdentifier oid)
  | hex (content : Octets) (short : content.length ≤ OctetBuffer.maxSize)
      (strings : options.strings = .hex) : Typable options 'x' (.octetString content)

namespace Literal

/-- A number within the bounds is read by `parseSigned` as it was printed. -/
theorem parseSigned_toString {half : Nat} {n : Int} (low : -(half : Int) ≤ n) (high : n < half) :
    parseSigned half (toString n) = .ok n := by
  rw [parseSigned, Decimal.signed?_toString low high]

theorem parseSigned_toString_word {half : Nat} {n : UInt32} (small : n.toNat < half) :
    parseSigned half (toString n) = .ok (n.toNat : Int) := by
  have low : -(half : Int) ≤ (n.toNat : Int) := by omega
  have high : (n.toNat : Int) < half := by omega
  have same : toString n = toString (n.toNat : Int) := rfl
  rw [same, parseSigned_toString low high]

/-- A number of 32 bits keeps all of them on the way through `UInt32.ofInt`. -/
theorem ofInt_toNat (n : UInt32) : UInt32.ofInt (n.toNat : Int) = n := by
  have bits : ((n.toNat : Int) % 2 ^ 32).toNat = n.toNat := by
    have top := n.toNat_lt
    omega
  rw [UInt32.ofInt, bits, UInt32.ofNat_toNat]

/-- The rule of the type reads what was printed, one case for each way to be `Typable`. -/
theorem Kind.parse_of_typable {options : OutputOptions} (plain : options.hints = false)
    {letter : Char} {value : Value} (h : value.Typable options letter) :
    ∃ kind, Kind.ofLetter? letter = some kind ∧ kind.parse (value.print options) = .ok value := by
  have bare (type body : String) : Value.withHint options type body = body := by
    rw [Value.withHint, plain]
    rfl
  cases h with
  | ipAddress addr =>
    refine ⟨.ipAddress, rfl, ?_⟩
    rw [Value.print, bare, Kind.parse, Ipv4.parse?_text]
  | integer n =>
    have read : parseSigned Decimal.half64 (toString n) = .ok n.toInt :=
      parseSigned_toString n.le_toInt n.toInt_lt
    refine ⟨.integer, rfl, ?_⟩
    rw [Value.print, bare, Kind.parse, read]
    exact congrArg (fun n => Except.ok (Value.integer n)) (Int64.ofInt_toInt n)
  -- without hints a time is printed as its number
  | timeTicks n =>
    have small : n.toNat < Decimal.half64 := Nat.lt_trans n.toNat_lt (by decide)
    refine ⟨.timeTicks, rfl, ?_⟩
    rw [Value.print, plain]
    show Kind.parse .timeTicks (toString n) = _
    rw [Kind.parse, parseSigned_toString_word small]
    exact congrArg (fun n => Except.ok (Value.timeTicks n)) (ofInt_toNat n)
  -- a counter is typed as a signed number, hence `small`
  | counter32 n small =>
    have small : n.toNat < Decimal.half32 := UInt32.lt_iff_toNat_lt.mp small
    refine ⟨.counter32, rfl, ?_⟩
    rw [Value.print, bare, Kind.parse, parseSigned_toString_word small]
    exact congrArg (fun n => Except.ok (Value.counter32 n)) (ofInt_toNat n)
  | null => exact ⟨.null, rfl, rfl⟩
  | objectIdentifier oid filled short lookup =>
    refine ⟨.objectIdentifier, rfl, ?_⟩
    rw [Value.print, bare, Kind.parse, Mib.resolve_render lookup filled short]
  | hex content short strings =>
    have hex : Value.shownAsText options.strings content = false := by
      rw [strings]
      rfl
    refine ⟨.hex, rfl, ?_⟩
    rw [Value.print, hex]
    show Kind.parse .hex (Value.withHint options "Hex-STRING" content.upperHex) = _
    rw [bare, Kind.parse, parseBytes_upperHex short]
    rfl

/-- What is printed for a `Typable` value without its type is a literal for it, for any object and
with any type that starts with the letter. -/
theorem parse_print {options : OutputOptions} (plain : options.hints = false) {letter : Char}
    {value : Value} (h : value.Typable options letter) {type : String}
    (first : type.toList.head? = some letter) (object : String) :
    parse object type (value.print options) = .ok value := by
  obtain ⟨kind, known, read⟩ := Kind.parse_of_typable plain h
  obtain ⟨more, written⟩ := List.head?_eq_some_iff.mp first
  rw [parse, written]
  simp only [known, read]

/-- A string of octets, an object with a name and the smallest integer. -/
theorem parse_print_sample :
    let options : OutputOptions := { hints := false, strings := .hex }
    let content : Value := .octetString [0x00, 0xFF, 0x0A]
    let object : Value := .objectIdentifier ⟨[1, 3, 6, 1, 2, 1, 1, 5, 0]⟩
    let lowest : Value := .integer (-9223372036854775808)
    content.print options = "00 FF 0A" ∧ parse "1.3" "x" "00 FF 0A" = .ok content ∧
      object.print options = "sysName.0" ∧ parse "1.3" "o" "sysName.0" = .ok object ∧
      lowest.print options = "-9223372036854775808" ∧
      parse "1.3" "integer" "-9223372036854775808" = .ok lowest := by
  intro options content object lowest
  have plain : options.hints = false := rfl
  have content' : content.print options = "00 FF 0A" := by decide +kernel
  have object' : object.print options = "sysName.0" := by decide +kernel
  have lowest' : lowest.print options = "-9223372036854775808" := by decide +kernel
  refine ⟨content', ?_, object', ?_, lowest', ?_⟩
  · rw [← content']
    exact parse_print plain (.hex _ (by decide) rfl) rfl "1.3"
  · rw [← object']
    exact parse_print plain (.objectIdentifier _ (by decide) (by decide) (.inl rfl)) rfl "1.3"
  · rw [← lowest']
    exact parse_print plain (.integer _) rfl "1.3"

end Literal

end SnmpManager
