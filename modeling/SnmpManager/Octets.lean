/-!
# Octets

Byte strings as lists, the form every codec of this library reads and writes.

- `Octets.toNat` reads a byte string as a big-endian number.
- `Octets.ofNat count n` writes the low `count` octets of a number, most
  significant first.
- `Octets.upperHex` and `Octets.lowerHex` are the two hex spellings the tool
  prints.
-/

namespace SnmpManager

/-- A byte string. -/
abbrev Octets := List UInt8

namespace Octets

/-! ## Big-endian numbers -/

/-- The number a byte string denotes, most significant octet first. -/
def toNat (bytes : Octets) : Nat :=
  bytes.foldl (fun n b => n * 256 + b.toNat) 0

/-- The low `count` octets of `n`, most significant first. -/
def ofNat : (count n : Nat) → Octets
  | 0, _ => []
  | count + 1, n => ofNat count (n / 256) ++ [UInt8.ofNat n]

@[simp] theorem length_ofNat (count n : Nat) : (ofNat count n).length = count := by
  induction count generalizing n with
  | zero => rfl
  | succ count ih => simp [ofNat, ih]

@[simp] theorem toNat_append_singleton (bytes : Octets) (b : UInt8) :
    toNat (bytes ++ [b]) = toNat bytes * 256 + b.toNat := by
  simp [toNat]

/-! ## Hex text -/

/-- The digit for a value below sixteen. -/
def hexDigit (letterBase : Char) (d : Nat) : Char :=
  if d < 10 then Char.ofNat ('0'.toNat + d) else Char.ofNat (letterBase.toNat + (d - 10))

/-- Two hex digits of one octet. -/
def hexPair (letterBase : Char) (b : UInt8) : List Char :=
  [hexDigit letterBase (b.toNat / 16), hexDigit letterBase (b.toNat % 16)]

/-- An octet in upper-case hex, as tags are shown. -/
def upperHexByte (b : UInt8) : String :=
  String.ofList (hexPair 'A' b)

/-- Upper-case hex with single spaces between octets. -/
def upperHex (bytes : Octets) : String :=
  String.ofList ([' '].intercalate (bytes.map (hexPair 'A')))

/-- Lower-case hex without separators. -/
def lowerHex (bytes : Octets) : String :=
  String.ofList (bytes.flatMap (hexPair 'a'))

end Octets

end SnmpManager
