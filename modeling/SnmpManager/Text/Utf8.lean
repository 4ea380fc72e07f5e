import SnmpManager.Octets

/-!
# UTF-8

- `Utf8.encode` writes characters as octets.
- `Utf8.decode?` reads octets that are well-formed throughout.
- `Utf8.decodeLossy` reads any octets: well-formed sequences become their
  character, and each maximal ill-formed subpart becomes one `U+FFFD`.

A subpart is maximal when no further octet could still continue a well-formed
sequence, so a truncated sequence counts once however many octets it has.
-/

namespace SnmpManager.Utf8

/-- The octets of a text. -/
def encode (text : String) : Octets :=
  text.toList.flatMap String.utf8EncodeChar

/-- The mark put in place of ill-formed input. -/
def replacement : Char := '\uFFFD'

/-- What a first octet promises: how many octets follow, the bounds on the one after it, and
its own part of the code point. -/
structure Lead where
  count : Nat
  low : UInt8
  high : UInt8
  bits : Nat
  deriving DecidableEq, Repr

/-- What a first octet promises, if it can start a sequence of more than one octet. -/
def lead? (first : UInt8) : Option Lead :=
  if 0xC2 ≤ first ∧ first ≤ 0xDF then some ⟨1, 0x80, 0xBF, first.toNat % 32⟩
  else if first = 0xE0 then some ⟨2, 0xA0, 0xBF, 0⟩
  else if first = 0xED then some ⟨2, 0x80, 0x9F, 13⟩
  else if 0xE1 ≤ first ∧ first ≤ 0xEF then some ⟨2, 0x80, 0xBF, first.toNat % 16⟩
  else if first = 0xF0 then some ⟨3, 0x90, 0xBF, 0⟩
  else if first = 0xF4 then some ⟨3, 0x80, 0x8F, 4⟩
  else if 0xF1 ≤ first ∧ first ≤ 0xF3 then some ⟨3, 0x80, 0xBF, first.toNat % 8⟩
  else none

/-- How many octets, of at most `count`, continue a sequence. Only the first of them is held to
the given bounds. -/
def continuing (low high : UInt8) : (count : Nat) → Octets → Nat
  | 0, _ => 0
  | _ + 1, [] => 0
  | count + 1, b :: rest =>
    if low ≤ b ∧ b ≤ high then continuing 0x80 0xBF count rest + 1 else 0

/-- The code point of a sequence: six bits from each octet after the first. -/
def codePoint (bits : Nat) (rest : Octets) : Nat :=
  rest.foldl (fun n b => n * 64 + b.toNat % 64) bits

/-- What one step of decoding makes of the front of the input. -/
inductive Piece where
  /-- A character, with the number of octets after the first that it took. -/
  | char (c : Char) (taken : Nat)
  /-- An ill-formed subpart, with the number of octets after the first in it. -/
  | broken (taken : Nat)

/-- Classify the sequence that starts with `first` and goes on with `rest`. -/
def step (first : UInt8) (rest : Octets) : Piece :=
  if first < 0x80 then .char (Char.ofNat first.toNat) 0
  else match lead? first with
    | none => .broken 0
    | some lead =>
      let taken := continuing lead.low lead.high lead.count rest
      if taken = lead.count then .char (Char.ofNat (codePoint lead.bits (rest.take taken))) taken
      else .broken taken

/-- Decode after skipping the octets the last piece already took, up to what is ill-formed. -/
def decodeAfter? : (skip : Nat) → Octets → Option (List Char)
  | _, [] => some []
  | skip + 1, _ :: rest => decodeAfter? skip rest
  | 0, first :: rest =>
    match step first rest with
    | .char c taken => (decodeAfter? taken rest).map (c :: ·)
    | .broken _ => none

/-- The characters of well-formed octets. -/
def decode? (bytes : Octets) : Option (List Char) :=
  decodeAfter? 0 bytes

/-- Decode after skipping the octets the last piece already took. -/
def decodeAfter : (skip : Nat) → Octets → List Char
  | _, [] => []
  | skip + 1, _ :: rest => decodeAfter skip rest
  | 0, first :: rest =>
    match step first rest with
    | .char c taken => c :: decodeAfter taken rest
    | .broken taken => replacement :: decodeAfter taken rest

/-- The characters of any octets, with ill-formed subparts replaced. -/
def decodeLossy (bytes : Octets) : List Char :=
  decodeAfter 0 bytes

end SnmpManager.Utf8
