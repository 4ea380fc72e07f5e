import Mathlib.Data.Nat.Digits.Defs
import SnmpManager.Proofs.Ber.Takes

/-!
# Writing forwards

What an encoder would put out that writes each value from its tag on, and knows each
length ahead of time. The encoder that writes backwards puts out the same.

- `Length.shortest`, `Octets.tlv`: the shortest definite length, and a value as tag,
  length and content.
- `Buffer.Operation`: what can be done to a buffer, constructed values with whatever is
  done inside them included; `Operation.run` does it, `Operation.octets` is what it
  amounts to when written forwards.
- `Buffer.Operation.octets_runAll`: what is done later comes earlier in the output, and
  what was written before stays as it was and is not counted anywhere.
-/

namespace SnmpManager

/-! ## Definite lengths -/

/-- The digits of a number in base 256, as `Nat.digits` gives them but most significant first. -/
def Octets.digits (n : Nat) : Octets :=
  (Nat.digits 256 n).reverse.map UInt8.ofNat

theorem Octets.digits_zero : digits 0 = [] := by
  rw [digits, Nat.digits_zero]
  rfl

/-- The last of the `digits` is the remainder, and those before it are the digits of the
quotient. -/
theorem Octets.digits_of_pos {n : Nat} (pos : 0 < n) :
    digits n = digits (n / 256) ++ [UInt8.ofNat n] := by
  have last : UInt8.ofNat (n % 256) = UInt8.ofNat n := by
    rw [UInt8.ofNat_mod_size]
  rw [digits, Nat.digits_def' (by decide) pos, List.reverse_cons, List.map_append, ← digits,
    List.map_singleton, last]

/-- As many octets of `ofNat` as a number has `digits` hold its digits. -/
theorem Octets.ofNat_eq_digits {count n : Nat} (low : 256 ^ count ≤ n)
    (high : n < 256 ^ (count + 1)) : ofNat (count + 1) n = digits n := by
  induction count generalizing n with
  | zero =>
    rw [digits_of_pos (by omega), Nat.div_eq_of_lt (by omega), digits_zero]
    rfl
  | succ count ih =>
    have positive : 0 < n := Nat.lt_of_lt_of_le (Nat.pow_pos (by decide)) low
    rw [Nat.pow_succ] at low high
    rw [ofNat, ih (by omega) (by omega), digits_of_pos positive]

namespace Length

/-- The shortest definite form: one octet for a length below 128, and else the `Octets.digits` of
the length behind an octet that says how many there are. -/
def shortest (n : Nat) : Octets :=
  if n < 128 then [UInt8.ofNat n]
  else UInt8.ofNat (128 + (Octets.digits n).length) :: Octets.digits n

/-- A length of 32 bits is written by `Length.octets` in its `shortest` form. -/
theorem octets_eq_shortest {n : Nat} (h : n < 2 ^ 32) : octets n = shortest n := by
  unfold octets shortest
  split
  case isTrue => rfl
  case isFalse long =>
    have digits : Octets.ofNat (width n) n = Octets.digits n := by
      unfold width
      split_ifs
      · exact Octets.ofNat_eq_digits (by omega) (by omega)
      · exact Octets.ofNat_eq_digits (by omega) (by omega)
      · exact Octets.ofNat_eq_digits (by omega) (by omega)
      · exact Octets.ofNat_eq_digits (by omega) (by omega)
    rw [← digits, Octets.length_ofNat]

end Length

/-- A value as tag, `Length.shortest` and content. -/
def Octets.tlv (t : UInt8) (content : Octets) : Octets :=
  t :: (Length.shortest content.length ++ content)

/-- A value with content of less than 2 ^ 32 octets goes out as its `tlv`. -/
theorem Octets.element_eq_tlv (t : UInt8) {content : Octets} (short : content.length < 2 ^ 32) :
    element t content = tlv t content := by
  rw [element, tlv, Length.octets_eq_shortest short]

/-- A `tlv` is longer than the content in it. -/
theorem Octets.length_lt_tlv (t : UInt8) (content : Octets) :
    content.length < (tlv t content).length := by
  rw [tlv, List.length_cons, List.length_append]
  omega

namespace Buffer

/-! ## Operations -/

/-- What can be done to a `Buffer`. -/
inductive Operation where
  | bytes (data : Octets)
  | lengthField (n : Nat)
  | tag (t : UInt8)
  | tagged (t : UInt8) (content : Octets)
  | integer (n : Int64)
  | unsigned (t : UInt8) (n : UInt64)
  | octetString (content : Octets)
  | blank (t : UInt8)
  | objectIdentifier (oid : Oid)
  | ipAddress (addr : Ipv4)
  | constructed (t : UInt8) (inner : List Operation)
  | sequence (inner : List Operation)

namespace Operation

mutual

/-- Do an `Operation`, with the method of `Buffer` that it stands for. -/
def run : Operation → Buffer → Buffer
  | .bytes data, buffer => buffer.bytes data
  | .lengthField n, buffer => buffer.lengthField n
  | .tag t, buffer => buffer.tag t
  | .tagged t content, buffer => buffer.tagged t content
  | .integer n, buffer => buffer.integer n
  | .unsigned t n, buffer => buffer.unsigned t n
  | .octetString content, buffer => buffer.octetString content
  | .blank t, buffer => buffer.blank t
  | .objectIdentifier oid, buffer => buffer.objectIdentifier oid
  | .ipAddress addr, buffer => buffer.ipAddress addr
  | .constructed t inner, buffer => buffer.constructed t (runAll inner)
  | .sequence inner, buffer => buffer.sequence (runAll inner)

/-- Do one `Operation` after another. -/
def runAll : List Operation → Buffer → Buffer
  | [], buffer => buffer
  | operation :: rest, buffer => runAll rest (operation.run buffer)

end

/-- Running all is a fold of `Operation.run`. -/
theorem runAll_eq_foldl (operations : List Operation) (buffer : Buffer) :
    runAll operations buffer = operations.foldl (fun b operation => operation.run b) buffer := by
  induction operations generalizing buffer with
  | nil => rfl
  | cons operation rest ih => rw [runAll, ih, List.foldl_cons]

mutual

/-- What an `Operation` amounts to when written forwards, as an `Octets.tlv` where it is a value. -/
def octets : Operation → Octets
  | .bytes data => data
  | .lengthField n => Length.octets n
  | .tag t => [t]
  | .tagged t content => Octets.tlv t content
  | .integer n => Octets.tlv Tag.integer (Integer.octets n.toInt)
  | .unsigned t n => Octets.tlv t (Integer.octets n.toNat)
  | .octetString content => Octets.tlv Tag.octetString content
  | .blank t => Octets.tlv t []
  | .objectIdentifier oid => Octets.tlv Tag.objectIdentifier oid.octets
  | .ipAddress addr => Octets.tlv Tag.ipAddress addr.octets
  | .constructed t inner => Octets.tlv t (octetsAll inner)
  | .sequence inner => Octets.tlv Tag.sequence (octetsAll inner)

/-- What operations amount to: the later, the earlier in the output. -/
def octetsAll : List Operation → Octets
  | [] => []
  | operation :: rest => octetsAll rest ++ operation.octets

end

/-- The octets of all are those of each in turn, the last one's first. -/
theorem octetsAll_eq (operations : List Operation) :
    octetsAll operations = operations.reverse.flatMap octets := by
  induction operations with
  | nil => rfl
  | cons operation rest ih => simp [octetsAll, ih]

mutual

/-- Whether the content of each `Octets.tlv` is one whose length 32 bits hold, those inside
included. -/
def Short : Operation → Prop
  | .tagged _ content | .octetString content => content.length < 2 ^ 32
  | .objectIdentifier oid => oid.octets.length < 2 ^ 32
  | .constructed _ inner | .sequence inner =>
    ShortAll inner ∧ (octetsAll inner).length < 2 ^ 32
  | .bytes _ | .lengthField _ | .tag _ | .integer _ | .unsigned _ _ | .blank _ | .ipAddress _ =>
    True

/-- Whether each operation is `Short`. -/
def ShortAll : List Operation → Prop
  | [] => True
  | operation :: rest => operation.Short ∧ ShortAll rest

end

mutual

/-- Contents are not longer than what they are part of, so a short output has `Short` operations. -/
theorem short_of_length (operation : Operation) (h : operation.octets.length < 2 ^ 32) :
    operation.Short := by
  cases operation with
  | bytes | lengthField | tag | integer | unsigned | blank | ipAddress => trivial
  | tagged t content => exact Nat.lt_trans (Octets.length_lt_tlv t content) h
  | octetString content => exact Nat.lt_trans (Octets.length_lt_tlv _ content) h
  | objectIdentifier oid => exact Nat.lt_trans (Octets.length_lt_tlv _ oid.octets) h
  | constructed t inner =>
    have inside := Nat.lt_trans (Octets.length_lt_tlv t (octetsAll inner)) h
    exact ⟨shortAll_of_length inner inside, inside⟩
  | sequence inner =>
    have inside := Nat.lt_trans (Octets.length_lt_tlv _ (octetsAll inner)) h
    exact ⟨shortAll_of_length inner inside, inside⟩

/-- Contents are not longer than all that is written: `short_of_length`, for a list. -/
theorem shortAll_of_length (operations : List Operation)
    (h : (octetsAll operations).length < 2 ^ 32) : ShortAll operations := by
  cases operations with
  | nil => trivial
  | cons operation rest =>
    rw [octetsAll, List.length_append] at h
    exact ⟨short_of_length operation (by omega), shortAll_of_length rest (by omega)⟩

end

/-- A constructed value is `Short` if all that is inside is. -/
theorem short_constructed (t : UInt8) {inner : List Operation}
    (h : (octetsAll inner).length < 2 ^ 32) : (constructed t inner).Short :=
  ⟨shortAll_of_length inner h, h⟩

/-- A sequence is `Short` if all that is inside is. -/
theorem short_sequence {inner : List Operation} (h : (octetsAll inner).length < 2 ^ 32) :
    (sequence inner).Short :=
  ⟨shortAll_of_length inner h, h⟩

/-! ## Backwards is forwards -/

/-- What `Buffer.tagged` puts in front of a buffer is a `tlv`. -/
theorem octets_tagged_eq (t : UInt8) {content : Octets} (short : content.length < 2 ^ 32)
    (buffer : Buffer) :
    (buffer.tagged t content).octets = Octets.tlv t content ++ buffer.octets := by
  rw [octets_tagged, ← Octets.element_append, Octets.element_eq_tlv t short]

/-- A constructed value is the `tlv` of what its inside adds to the buffer. -/
theorem octets_constructed_eq (t : UInt8) {inner : List Operation}
    (short : (octetsAll inner).length < 2 ^ 32) {buffer : Buffer}
    (adds : (runAll inner buffer).octets = octetsAll inner ++ buffer.octets) :
    (buffer.constructed t (runAll inner)).octets
      = Octets.tlv t (octetsAll inner) ++ buffer.octets := by
  rw [Buffer.octets_constructed buffer t adds, ← Octets.element_append,
    Octets.element_eq_tlv t short]

mutual

/-- An operation that is `Short` puts its octets in front of what is there. -/
theorem octets_run (operation : Operation) (buffer : Buffer) (short : operation.Short) :
    (operation.run buffer).octets = operation.octets ++ buffer.octets := by
  cases operation with
  | bytes data => exact octets_bytes buffer data
  | lengthField n => exact octets_lengthField buffer n
  | tag t => exact octets_tag buffer t
  | blank t =>
    rw [run, Buffer.blank, octets_tag, octets_lengthField]
    rfl
  -- a value is short by assumption, a number because it has nine octets at most, and an address has
  -- four
  | tagged t content => exact octets_tagged_eq t short buffer
  | integer n =>
    have few := Integer.length_octets_le (Integer.within_int64 n) (by decide)
    exact octets_tagged_eq Tag.integer (by omega) buffer
  | unsigned t n =>
    have few := Integer.length_octets_le (Integer.within_uint64 n) (by decide)
    exact octets_tagged_eq t (by omega) buffer
  | octetString content => exact octets_tagged_eq Tag.octetString short buffer
  | objectIdentifier oid => exact octets_tagged_eq Tag.objectIdentifier short buffer
  | ipAddress addr =>
    have few : addr.octets.length < 2 ^ 32 := (by decide : 4 < 2 ^ 32)
    exact octets_tagged_eq Tag.ipAddress few buffer
  | constructed t inner =>
    obtain ⟨inside, short⟩ := short
    exact octets_constructed_eq t short (octets_runAll inner buffer inside)
  | sequence inner =>
    obtain ⟨inside, short⟩ := short
    exact octets_constructed_eq Tag.sequence short (octets_runAll inner buffer inside)

/-- Operations put their octets in front of what is there, the last one's first: `octets_run`, by
induction on the list. -/
theorem octets_runAll (operations : List Operation) (buffer : Buffer)
    (short : ShortAll operations) :
    (runAll operations buffer).octets = octetsAll operations ++ buffer.octets := by
  cases operations with
  | nil => rfl
  | cons operation rest =>
    rw [runAll, octets_runAll rest _ short.2, octets_run operation buffer short.1, octetsAll,
      List.append_assoc]

end

end Operation

end Buffer

end SnmpManager
