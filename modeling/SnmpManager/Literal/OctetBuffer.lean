import SnmpManager.Error

/-!
# Octets under construction

The buffer in which byte literals are put together: it grows with zeros as far
as an index needs and never beyond `OctetBuffer.maxSize`.

- `OctetBuffer.ensure` makes an index valid; it fails exactly at the cap
  (`ensure_eq_error_iff`) and grows no further than it must (`size_of_ensure`).
- `OctetBuffer.modify` changes the octet at an index, `OctetBuffer.push` appends.
-/

namespace SnmpManager

/-- Octets under construction. -/
structure OctetBuffer where
  bytes : Array UInt8
  deriving DecidableEq, Repr

namespace OctetBuffer

/-- The most octets a literal may denote. -/
def maxSize : Nat := 65535

/-- No octets. -/
def empty : OctetBuffer := ⟨#[]⟩

/-- How many octets there are. -/
def size (buffer : OctetBuffer) : Nat := buffer.bytes.size

/-- The octets as a list. -/
def octets (buffer : OctetBuffer) : Octets := buffer.bytes.toList

/-- Grow with zeros until `index` is valid. -/
def ensure (buffer : OctetBuffer) (index : Nat) : Except LiteralFault OctetBuffer :=
  if index ≥ maxSize then .error .outOfRange
  else .ok ⟨buffer.bytes ++ Array.replicate (index + 1 - buffer.bytes.size) 0⟩

/-- An index cannot be made valid exactly if it does not lie below the cap. -/
theorem ensure_eq_error_iff {buffer : OctetBuffer} {index : Nat} {fault : LiteralFault} :
    buffer.ensure index = .error fault ↔ fault = .outOfRange ∧ maxSize ≤ index := by
  unfold ensure
  split
  case isTrue beyond =>
    constructor
    · rintro ⟨⟩
      exact ⟨rfl, beyond⟩
    · rintro ⟨rfl, -⟩
      rfl
  case isFalse below => exact ⟨nofun, fun ⟨_, beyond⟩ => absurd beyond below⟩

/-- Making an index valid never drops an octet. -/
theorem size_of_ensure {buffer grown : OctetBuffer} {index : Nat}
    (h : buffer.ensure index = .ok grown) : grown.size = max buffer.size (index + 1) := by
  unfold ensure at h
  split at h
  case isTrue => cases h
  case isFalse =>
    cases h
    simp only [size, Array.size_append, Array.size_replicate]
    omega

/-- Change the octet at an index, growing as needed. -/
def modify (buffer : OctetBuffer) (index : Nat) (f : UInt8 → UInt8) :
    Except LiteralFault OctetBuffer :=
  match buffer.ensure index with
  | .error fault => .error fault
  | .ok grown => .ok ⟨grown.bytes.modify index f⟩

/-- Append an octet. -/
def push (buffer : OctetBuffer) (octet : UInt8) : Except LiteralFault OctetBuffer :=
  buffer.modify buffer.size fun _ => octet

end OctetBuffer

end SnmpManager
