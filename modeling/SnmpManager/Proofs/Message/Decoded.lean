import SnmpManager.Proofs.Ber.Uses
import SnmpManager.Proofs.Message.Size

/-!
# What decoded messages hold

Whatever octets arrive, a message decoded from them is in the domain of the codec
(`Message.decode_encodable`), and it is not much longer when it is written again
(`Message.length_content_of_decode`): a header that was read takes two octets at
least, one that is written takes six at most, and there are at most nine octets in
a number. So a message that a transport delivers is decoded again from the octets
that are written for it (`Message.decode_encode_of_decode`), in whatever form it
came.

- `Octets.growth`: how many octets may be written for one that was read.
-/

namespace SnmpManager

/-- How many octets may be written for one that was read. -/
def Octets.growth : Nat := 8

/-- A value is written with a header of at most six octets, and had one of at least two. At `growth`
octets for one, that leaves room for ten octets more than there are for the content alone. -/
theorem Octets.length_element_growth (t : UInt8) {content : Octets} {inside used : Nat}
    (header : 2 + inside ≤ used) (h : content.length ≤ 10 + growth * inside) :
    (element t content).length ≤ growth * used := by
  have written := length_element_le t content
  rw [growth] at h ⊢
  omega

/-! ## Values -/

namespace Value

theorem uses_readUnsigned32 (n : Nat) : Read.Uses (readUnsigned32 n) fun _ used => used = n :=
  (Read.uses_unsignedContent n 32).bind fun _ _ counted => Read.uses_pure counted

/-- A value that was read is in the domain of the codec, and its content is written again with five
octets for one, or else with those of a number. -/
def Again (value : Value) (used : Nat) : Prop :=
  value.Encodable ∧ value.content.length ≤ 9 + 5 * used

/-- A number without a sign takes nine octets at most, so it is within what `Again` allows however
few were read. -/
theorem length_octets_unsigned_le (n : UInt64) (used : Nat) :
    (Integer.octets n.toNat).length ≤ 9 + 5 * used := by
  have few := Integer.length_octets_le (Integer.within_uint64 n) (Nat.le_refl 8)
  omega

/-- Content that is skipped is not written again. -/
theorem uses_readBlank (n : Nat) {value : Value} (encodable : value.Encodable)
    (blank : value.content = []) : Read.Uses (readBlank n value) Again := by
  refine (Read.uses_bytes n).bind fun content used _ => Read.uses_pure ⟨encodable, ?_⟩
  rw [blank]
  exact Nat.zero_le _

theorem uses_readIpAddress (n : Nat) : Read.Uses (readIpAddress n) Again := by
  unfold readIpAddress
  split
  case isTrue => exact Read.uses_fail _ _
  case isFalse =>
    refine (Read.uses_bytes 4).bind fun content used _ => ?_
    split
    case h_1 a b c d =>
      refine Read.uses_pure ⟨trivial, ?_⟩
      show 4 ≤ _
      omega
    case h_2 => exact Read.uses_fail _ _

/-- Case by case over the kinds: numbers are short, paths take five octets for an arc, and the
others are kept as they are. -/
theorem uses_readContent (n : Nat) (kind : Tag.ValueKind) :
    Read.Uses (readContent n kind) Again := by
  cases kind with
  | integer =>
    refine (Read.uses_integerContent n).bind fun number used _ => Read.uses_pure ⟨trivial, ?_⟩
    have few := Integer.length_octets_le (Integer.within_int64 number) (by decide)
    show (Integer.octets number.toInt).length ≤ _
    omega
  | octetString | opaqueData =>
    refine (Read.uses_bytes n).bind fun content used counted => Read.uses_pure ⟨trivial, ?_⟩
    show content.length ≤ _
    omega
  | objectIdentifier =>
    refine (Read.uses_oidContent n).bind fun oid used counted => ?_
    obtain ⟨rfl, encodable, again⟩ := counted
    refine Read.uses_pure ⟨encodable, ?_⟩
    show oid.octets.length ≤ _
    omega
  | ipAddress => exact uses_readIpAddress n
  | counter32 | gauge32 | timeTicks =>
    refine (uses_readUnsigned32 n).bind fun number used _ => Read.uses_pure ?_
    exact ⟨trivial, length_octets_unsigned_le number.toUInt64 _⟩
  | counter64 =>
    refine (Read.uses_unsignedContent n 64).bind fun number used _ => Read.uses_pure ?_
    exact ⟨trivial, length_octets_unsigned_le number _⟩
  | null | noSuchObject | noSuchInstance | endOfMibView => exact uses_readBlank n trivial rfl

/-- A value is in the domain of the codec when it was read; a tag that means something is never kept
as unknown, which is what `Encodable` asks of unknown values. -/
theorem read_uses :
    Read.Uses read fun value used =>
      value.Encodable ∧ value.octets.length ≤ Octets.growth * used := by
  unfold Value.read
  refine Read.uses_tag.bind fun tag one counted => ?_
  refine Read.uses_length.bind fun n field ⟨nonempty, _⟩ => ?_
  -- known or not, the tag takes one octet and the length one at least
  have content : ∀ value inside, Again value inside → value.Encodable ∧
      value.octets.length ≤ Octets.growth * (one + (field + inside)) := by
    rintro value inside ⟨encodable, short⟩
    have room : value.content.length ≤ 10 + Octets.growth * inside := by
      rw [Octets.growth]
      omega
    exact ⟨encodable, Octets.length_element_growth value.tag (by omega) room⟩
  split
  case h_1 kind _ => exact (uses_readContent n kind).mono content
  case h_2 unknown =>
    refine (Read.uses_bytes n).bind fun data used counted => Read.uses_pure ?_
    refine content (.unknown tag data) used ⟨unknown, ?_⟩
    show data.length ≤ _
    omega

end Value

/-! ## Bindings -/

/-- Header, object and value of a binding grow by no more than `growth` each, and so does the
binding. -/
theorem VarBind.read_uses :
    Read.Uses VarBind.read fun binding used =>
      binding.Encodable ∧ binding.octets.length ≤ Octets.growth * used := by
  unfold VarBind.read
  have fields : Read.Uses (do
      let oid ← Read.objectIdentifier
      let value ← Value.read
      return (⟨oid, value⟩ : VarBind)) fun binding used =>
        binding.Encodable ∧ (Octets.element Tag.objectIdentifier binding.oid.octets
          ++ binding.value.octets).length ≤ Octets.growth * used := by
    refine Read.uses_objectIdentifier.bind fun oid front ⟨encodable, again⟩ => ?_
    refine Value.read_uses.bind fun value back ⟨encodable', again'⟩ => ?_
    refine Read.uses_pure ⟨⟨encodable, encodable'⟩, ?_⟩
    -- the header of the object: six octets for the two that were read
    have written := Octets.length_element_le Tag.objectIdentifier oid.octets
    show (Octets.element Tag.objectIdentifier oid.octets ++ value.octets).length ≤ _
    rw [List.length_append]
    rw [Octets.growth] at again' ⊢
    omega
  refine (Read.uses_constructed Tag.sequence).bind fun inner used ⟨counted, _⟩ => ?_
  refine (Read.uses_within fields inner).mono ?_
  rintro binding _ ⟨rfl, inside, among, encodable, again⟩
  refine ⟨encodable, ?_⟩
  exact Octets.length_element_growth Tag.sequence (by omega) (Nat.le_add_left_of_le again)

namespace VarBindList

/-- The objects of some bindings are encodable. -/
def OidsEncodable (bindings : List VarBind) : Prop :=
  ∀ binding ∈ bindings, binding.oid.Encodable

theorem oidsEncodable_nil : OidsEncodable [] :=
  fun _ mem => absurd mem List.not_mem_nil

/-- By induction on the fuel of `readAll`: what holds of each binding that was read holds of the
list, and the octets add up. -/
theorem readAll_uses (fuel : Nat) :
    Read.Uses (readAll fuel) fun bindings used =>
      (∀ binding ∈ bindings, binding.Encodable) ∧
        (content bindings).length ≤ Octets.growth * used := by
  have nothing : (∀ binding ∈ [], VarBind.Encodable binding) ∧
      (content []).length ≤ Octets.growth * 0 :=
    ⟨fun _ mem => absurd mem List.not_mem_nil, Nat.le_refl 0⟩
  induction fuel with
  | zero => exact Read.uses_pure nothing
  | succ fuel ih =>
    rw [readAll]
    refine Read.uses_get_bind fun cursor => ?_
    split
    case isTrue => exact Read.uses_pure nothing
    case isFalse =>
      refine VarBind.read_uses.bind fun binding front read => ?_
      refine ih.bind fun more back reads => ?_
      obtain ⟨first, again⟩ := read
      obtain ⟨others, again'⟩ := reads
      refine Read.uses_pure ⟨List.forall_mem_cons.mpr ⟨first, others⟩, ?_⟩
      rw [content] at again' ⊢
      rw [List.flatMap_cons, List.length_append]
      -- the growth of the parts is the growth of the whole
      rw [Octets.growth] at again again' ⊢
      omega

theorem read_uses :
    Read.Uses read fun bindings used =>
      (∀ binding ∈ bindings, binding.Encodable) ∧
        (octets bindings).length ≤ Octets.growth * used := by
  unfold read
  refine (Read.uses_constructed Tag.sequence).bind fun inner used ⟨counted, _⟩ => ?_
  refine (Read.uses_within (readAll_uses inner.remaining) inner).mono ?_
  rintro bindings _ ⟨rfl, inside, among, encodable, again⟩
  refine ⟨encodable, ?_⟩
  exact Octets.length_element_growth Tag.sequence (by omega) (Nat.le_add_left_of_le again)

end VarBindList

/-! ## Messages -/

/-- A number of 32 bits takes fourteen octets at most, and a number that was read took two at
least. -/
theorem Octets.length_number_growth (n : Int32) {used : Nat} (enough : 2 ≤ used) :
    (number n).length ≤ growth * used := by
  have few := length_number_le n
  rw [growth]
  omega

namespace Pdu

/-- The three numbers and the list of bindings are read one after another, and so are written. -/
theorem readFields_uses (kind : PduKind) :
    Read.Uses (readFields kind) fun pdu used =>
      (∀ binding ∈ pdu.bindings, binding.Encodable) ∧
        pdu.content.length ≤ Octets.growth * used := by
  unfold readFields
  refine Read.uses_integer.bind fun requestId first enough => ?_
  refine Read.uses_integer.bind fun status second enough' => ?_
  refine Read.uses_integer.bind fun index third enough'' => ?_
  refine VarBindList.read_uses.bind fun bindings rest ⟨encodable, again⟩ => ?_
  refine Read.uses_pure ⟨encodable, ?_⟩
  have requestId := Octets.length_number_growth requestId enough
  have status := Octets.length_number_growth status enough'
  have index := Octets.length_number_growth index enough''
  rw [content, List.length_append, List.length_append, List.length_append]
  rw [Octets.growth] at requestId status index again ⊢
  dsimp only
  omega

/-- Only a tag that `PduKind` knows starts a unit, and the fields are inside. -/
theorem read_uses :
    Read.Uses read fun pdu used =>
      (∀ binding ∈ pdu.bindings, binding.Encodable) ∧
        pdu.octets.length ≤ Octets.growth * used := by
  unfold read
  refine Read.uses_get_bind fun cursor => Read.uses_tag.bind fun tag one counted => ?_
  split
  case h_1 => exact Read.uses_throw _ _
  case h_2 kind _ =>
    refine Read.uses_length.bind fun n field ⟨nonempty, _⟩ => ?_
    refine (Read.uses_bytes n).bind fun data used ⟨counted', sized⟩ => ?_
    refine (Read.uses_within (readFields_uses kind) (.ofOctets data)).mono ?_
    rintro pdu _ ⟨rfl, inside, among, encodable, again⟩
    refine ⟨encodable, ?_⟩
    change inside ≤ data.length at among
    exact Octets.length_element_growth pdu.kind.tag (by omega) (Nat.le_add_left_of_le again)

end Pdu

namespace Message

/-- Version, community and unit are read one after another, and so are written. -/
theorem readFields_uses :
    Read.Uses readFields fun message used =>
      message.Encodable ∧ message.content.length ≤ Octets.growth * used := by
  unfold readFields
  refine Read.uses_get_bind fun cursor => ?_
  refine Read.uses_integer.bind fun number first enough => ?_
  split
  case h_1 => exact Read.uses_throw _ _
  case h_2 version _ =>
    refine Read.uses_octetString.bind fun community second enough' => ?_
    refine Pdu.read_uses.bind fun pdu rest ⟨encodable, again⟩ => ?_
    refine Read.uses_pure ⟨encodable, ?_⟩
    have number := Octets.length_number_growth version.number enough
    have community := Octets.length_element_le Tag.octetString community
    rw [content, List.length_append, List.length_append]
    rw [Octets.growth] at number again ⊢
    dsimp only
    omega

/-- What is read from the outer SEQUENCE, whose own header `Message.content` leaves out. -/
theorem read_uses :
    Read.Uses read fun message used =>
      message.Encodable ∧ message.content.length ≤ Octets.growth * used := by
  unfold read
  refine (Read.uses_constructed Tag.sequence).bind fun inner used ⟨counted, _⟩ => ?_
  refine Read.uses_get_bind fun cursor => ?_
  split
  case isFalse => exact Read.uses_fail _ _
  case isTrue =>
    refine (Read.uses_within readFields_uses inner).mono ?_
    rintro message _ ⟨rfl, inside, among, encodable, again⟩
    refine ⟨encodable, ?_⟩
    rw [Octets.growth] at again ⊢
    omega

/-- A decoded message is `Encodable`, whatever octets it came from. -/
theorem encodable_of_decode {data : Octets} {message : Message} (h : decode data = .ok message) :
    message.Encodable := by
  obtain ⟨_, -, encodable, -⟩ := read_uses.of_eq h
  exact encodable

/-- The objects in a decoded message are encodable. -/
theorem decode_encodable {data : Octets} {message : Message} (h : decode data = .ok message) :
    VarBindList.OidsEncodable message.pdu.bindings :=
  fun binding mem => (encodable_of_decode h binding mem).oid

/-- A decoded message is not much longer when it is written again: `growth` octets for one that
arrived. -/
theorem length_content_of_decode {data : Octets} {message : Message}
    (h : decode data = .ok message) : message.content.length ≤ Octets.growth * data.length := by
  obtain ⟨used, among, -, again⟩ := read_uses.of_eq h
  exact Nat.le_trans again (Nat.mul_le_mul_left _ among)

/-- What is decoded from octets that a transport delivers is decoded again from its own octets,
which may be others: of the forms in which a message can come, `encode` writes one. -/
theorem decode_encode_of_decode {data : Octets} {message : Message}
    (delivered : data.length ≤ maxMessageSize + 6) (h : decode data = .ok message) :
    decode message.encode = .ok message := by
  rw [encode_eq]
  refine decode_content (encodable_of_decode h) ?_
  calc message.content.length
      ≤ Octets.growth * data.length := length_content_of_decode h
    _ ≤ Octets.growth * (maxMessageSize + 6) := Nat.mul_le_mul_left _ delivered
    _ ≤ Length.max := by decide

/-- A message with a padded number, lengths in more octets than they need, a sub-identifier with an
empty group, unsigned numbers with too few and too many zeros, content where none belongs, a tag
without a meaning, and octets after the last field at each level. -/
theorem decode_encode_of_decode_lenient :
    let data : Octets := [0x30, 0x82, 0x00, 0x50,
      0x02, 0x02, 0x00, 0x01, 0x04, 0x81, 0x01, 0x70,
      0xA2, 0x81, 0x43, 0x02, 0x01, 0xFF, 0x02, 0x02, 0x00, 0x00, 0x02, 0x01, 0x00,
      0x30, 0x84, 0x00, 0x00, 0x00, 0x32,
      0x30, 0x0A, 0x06, 0x04, 0x80, 0x2B, 0x80, 0x06, 0x41, 0x01, 0xFF, 0x00,
      0x30, 0x0C, 0x06, 0x01, 0x2B, 0x43, 0x07, 0x00, 0x00, 0x00, 0x00, 0x00, 0x00, 0x07,
      0x30, 0x06, 0x06, 0x01, 0x2B, 0x05, 0x01, 0xAA,
      0x30, 0x06, 0x06, 0x01, 0x2B, 0x80, 0x01, 0x00,
      0x30, 0x06, 0x06, 0x01, 0x2B, 0x47, 0x01, 0x9F, 0x00, 0x05, 0x00]
    let message : Message := ⟨.v2c, [0x70], ⟨.response, -1, 0, 0,
      [⟨⟨[1, 3, 6]⟩, .counter32 255⟩, ⟨⟨[1, 3]⟩, .timeTicks 7⟩, ⟨⟨[1, 3]⟩, .null⟩,
        ⟨⟨[1, 3]⟩, .noSuchObject⟩, ⟨⟨[1, 3]⟩, .unknown 0x47 [0x9F]⟩]⟩⟩
    data.length ≤ maxMessageSize + 6 ∧ decode data = .ok message ∧ message.encode ≠ data ∧
      decode message.encode = .ok message := by
  intro data message
  have delivered : data.length ≤ maxMessageSize + 6 := by decide
  have decoded : decode data = .ok message := by decide +kernel
  exact ⟨delivered, decoded, by decide +kernel, decode_encode_of_decode delivered decoded⟩

end Message

end SnmpManager
