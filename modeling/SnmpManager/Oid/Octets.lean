import SnmpManager.Error

/-!
# Object identifiers on the wire

The content octets of an OBJECT IDENTIFIER: a series of sub-identifiers in base
128, most significant group first, with the top bit set on every octet but the
last of a group. The first sub-identifier carries two arcs, forty times the
first plus the second.

- `Oid.octets` writes any path. The two arcs of the first sub-identifier are
  joined with sums that stop at the largest 32-bit number, so paths outside the
  codec's domain come back as other paths.
- `Oid.ofOctets` reads content octets; an error carries its offset in them.
-/

namespace SnmpManager.Oid

/-! ## Writing -/

/-- The base-128 groups of `n` but the last, each marked as not the last. -/
def leadingGroups : (fuel n : Nat) → Octets
  | 0, _ => []
  | fuel + 1, n =>
    if n = 0 then [] else leadingGroups fuel (n / 128) ++ [UInt8.ofNat (128 + n % 128)]

/-- One sub-identifier in as few groups as possible; five hold any 32-bit number. -/
def subidentifier (n : UInt32) : Octets :=
  leadingGroups 4 (n.toNat / 128) ++ [UInt8.ofNat (n.toNat % 128)]

/-- The largest 32-bit number not above `n`. -/
def clamp (n : Nat) : UInt32 :=
  UInt32.ofNat (min n 0xFFFFFFFF)

/-- The sub-identifier for the first two arcs. -/
def joinFirst (first second : UInt32) : UInt32 :=
  clamp ((clamp (first.toNat * 40)).toNat + second.toNat)

/-- The content octets. -/
def octets (oid : Oid) : Octets :=
  match oid.arcs with
  | [] => []
  | [first] => subidentifier (clamp (first.toNat * 40))
  | first :: second :: rest => subidentifier (joinFirst first second) ++ rest.flatMap subidentifier

/-! ## Reading -/

/-- A sub-identifier, where the groups so far denote `value` and end at `offset`:
its value, the offset after it, and the rest of the content. -/
def readSubidentifier (value offset : Nat) : Octets → Except DecodeError (UInt32 × Nat × Octets)
  | [] => .error ⟨offset, .truncatedData⟩
  | b :: rest =>
    if value ≥ 0x2000000 then .error ⟨offset + 1, .integerOverflow⟩
    else
      let value := value * 128 + b.toNat % 128
      if b < 0x80 then .ok (UInt32.ofNat value, offset + 1, rest)
      else readSubidentifier value (offset + 1) rest

/-- The two arcs a first sub-identifier stands for. -/
def splitFirst (n : UInt32) : List UInt32 :=
  if n < 40 then [0, n] else if n < 80 then [1, n - 40] else [2, n - 80]

/-- The arcs after the first two; `count` is how many arcs come before. `fuel` bounds the
number of sub-identifiers and is the length of the content. -/
def readArcs (count offset : Nat) : (fuel : Nat) → Octets → Except DecodeError (List UInt32)
  | _, [] => .ok []
  | 0, _ :: _ => .ok []
  | fuel + 1, content@(_ :: _) =>
    match readSubidentifier 0 offset content with
    | .error e => .error e
    | .ok (arc, offset, rest) =>
      if count + 1 > maxArcs then .error ⟨offset, .invalidOidEncoding⟩
      else match readArcs (count + 1) offset fuel rest with
        | .error e => .error e
        | .ok arcs => .ok (arc :: arcs)

/-- Read content octets. -/
def ofOctets (content : Octets) : Except DecodeError Oid :=
  if content = [] then .error ⟨0, .invalidOidEncoding⟩
  else match readSubidentifier 0 0 content with
    | .error e => .error e
    | .ok (first, offset, rest) =>
      match readArcs 2 offset content.length rest with
      | .error e => .error e
      | .ok arcs => .ok ⟨splitFirst first ++ arcs⟩

end SnmpManager.Oid
