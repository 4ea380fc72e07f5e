import SnmpManager.Message
import SnmpManager.Proofs.Value.Wire

/-!
# Messages on the wire and back

A message is written backwards, each length after what it measures, and read
forwards through one cursor a level. `Message.decode_encode` says that the two
meet: every message of the codec's domain whose content is not longer than what
is read comes back as it was.

- `Message.content`: what the outer SEQUENCE of a message holds.
- `Message.Encodable`: the domain, which restricts only what the bindings hold.
- `Message.encode_eq`: the encoded message as plain octets.
-/

namespace SnmpManager

/-- The octets of a number of 32 bits. -/
def Octets.number (n : Int32) : Octets :=
  element Tag.integer (Integer.octets n.toInt64.toInt)

/-- Writing a number puts `Octets.number` in front of a buffer. -/
theorem Buffer.octets_integer (buffer : Buffer) (n : Int32) :
    (buffer.integer n.toInt64).octets = Octets.number n ++ buffer.octets := by
  rw [integer, octets_tagged, Octets.number, Octets.element_append]

/-! ## Protocol data units -/

namespace Pdu

/-- What a unit holds. -/
def content (pdu : Pdu) : Octets :=
  Octets.number pdu.requestId ++ (Octets.number pdu.errorStatus ++
    (Octets.number pdu.errorIndex ++ VarBindList.octets pdu.bindings))

/-- The octets of a unit. -/
def octets (pdu : Pdu) : Octets :=
  Octets.element pdu.kind.tag pdu.content

/-- Writing a unit puts `Pdu.octets` in front of a buffer. -/
theorem octets_write (pdu : Pdu) (buffer : Buffer) :
    (pdu.write buffer).octets = pdu.octets ++ buffer.octets := by
  have adds : ((((VarBindList.write pdu.bindings buffer).integer pdu.errorIndex.toInt64).integer
      pdu.errorStatus.toInt64).integer pdu.requestId.toInt64).octets
        = pdu.content ++ buffer.octets := by
    rw [Buffer.octets_integer, Buffer.octets_integer, Buffer.octets_integer,
      VarBindList.octets_write, content]
    simp only [List.append_assoc]
  rw [write, octets, Octets.element_append pdu.kind.tag]
  exact Buffer.octets_constructed buffer pdu.kind.tag adds

/-- The fields of a unit read back, one after another. -/
theorem takes_readFields {pdu : Pdu} (h : ∀ binding ∈ pdu.bindings, binding.Encodable)
    (short : pdu.content.length ≤ Length.max) :
    Read.Takes (readFields pdu.kind) pdu.content pdu := by
  have list : (VarBindList.octets pdu.bindings).length ≤ Length.max := by
    simp only [content, List.length_append] at short
    omega
  exact (Read.takes_integer pdu.requestId).bind <| (Read.takes_integer pdu.errorStatus).bind <|
    (Read.takes_integer pdu.errorIndex).bind <|
      (VarBindList.takes_read h list).map (Pdu.mk pdu.kind _ _ _)

/-- A unit reads back from its `octets`, which start with the tag of its kind. -/
theorem takes_read {pdu : Pdu} (h : ∀ binding ∈ pdu.bindings, binding.Encodable)
    (short : pdu.octets.length ≤ Length.max) : Read.Takes read pdu.octets pdu := by
  have short := Nat.le_of_lt (Nat.lt_of_lt_of_le (Octets.length_lt_element _ _) short)
  have inside := (takes_readFields h short).of_eq
  have body : Read.Takes (do
      let content ← Read.bytes (← Read.length)
      Read.within (.ofOctets content) (readFields pdu.kind))
      (Length.octets pdu.content.length ++ (pdu.content ++ [])) pdu :=
    (Read.takes_length short).bind ((Read.takes_bytes pdu.content).bind (Read.takes_within inside))
  rw [List.append_nil] at body
  rw [octets, Octets.element_eq]
  refine Read.takes_get_bind fun cursor => (Read.takes_tag pdu.kind.tag).bind ?_
  simp only [PduKind.ofTag?_tag]
  exact body

end Pdu

/-! ## Messages -/

namespace Message

/-- What the outer SEQUENCE of a message holds. -/
def content (message : Message) : Octets :=
  Octets.number message.version.number ++
    (Octets.element Tag.octetString message.community ++ message.pdu.octets)

/-- The messages that come back as they were, if they are not too long. -/
def Encodable (message : Message) : Prop :=
  ∀ binding ∈ message.pdu.bindings, binding.Encodable

instance (message : Message) : Decidable message.Encodable :=
  inferInstanceAs (Decidable (∀ binding ∈ message.pdu.bindings, binding.Encodable))

/-- Writing a message puts its one SEQUENCE in front of a buffer. -/
theorem octets_write (message : Message) (buffer : Buffer) :
    (message.write buffer).octets
      = Octets.element Tag.sequence message.content ++ buffer.octets := by
  have adds : (((message.pdu.write buffer).octetString message.community).integer
      message.version.number.toInt64).octets = message.content ++ buffer.octets := by
    rw [Buffer.octets_integer, Buffer.octetString, Buffer.octets_tagged, Pdu.octets_write,
      content, ← Octets.element_append]
    simp only [List.append_assoc]
  rw [write, Octets.element_append]
  exact Buffer.octets_constructed buffer Tag.sequence adds

theorem encode_eq (message : Message) :
    message.encode = Octets.element Tag.sequence message.content := by
  rw [encode, octets_write, Buffer.octets_empty, List.append_nil]

/-- The fields of a message read back, one after another. -/
theorem takes_readFields {message : Message} (h : message.Encodable)
    (short : message.content.length ≤ Length.max) :
    Read.Takes readFields message.content message := by
  simp only [content, List.length_append] at short
  have community := Octets.length_lt_element Tag.octetString message.community
  refine Read.takes_get_bind fun cursor => (Read.takes_integer message.version.number).bind ?_
  rw [Version.ofNumber?_number]
  exact (Read.takes_octetString (by omega)).bind <|
    (Pdu.takes_read h (by omega)).map (Message.mk message.version message.community)

/-- A message is one SEQUENCE, and `readFields` reads what that holds. -/
theorem decode_sequence {content : Octets} (short : content.length ≤ Length.max) :
    decode (Octets.element Tag.sequence content) = readFields.of content := by
  -- nothing comes after the SEQUENCE, which is what the reader checks in between
  have outer := Read.takes_constructed Tag.sequence short 0 []
  rw [List.append_nil] at outer
  rw [decode, Read.of, Cursor.ofOctets, read, Read.on_bind, Read.sequence, outer]
  simp only
  rw [Read.on_bind, Read.on_get]
  simp only [Cursor.atEnd, List.isEmpty_nil, if_true]
  unfold Read.within Read.of
  split
  case h_1 e _ failed =>
    rw [failed]
    rfl
  case h_2 message _ yielded =>
    rw [yielded]
    rfl

/-- The content of an `Encodable` message, in one SEQUENCE, is read as that message. -/
theorem decode_content {message : Message} (h : message.Encodable)
    (short : message.content.length ≤ Length.max) :
    decode (Octets.element Tag.sequence message.content) = .ok message := by
  rw [decode_sequence short, (takes_readFields h short).of_eq]

/-- Every `Encodable` message whose content is not longer than `Length.max` comes back as it was. -/
theorem decode_encode (message : Message) (h : message.Encodable)
    (short : message.content.length ≤ Length.max) :
    decode message.encode = .ok message := by
  rw [encode_eq]
  exact decode_content h short

/-- A message with values of many kinds at the edges of the domain. -/
theorem decode_encode_edges :
    let message : Message := ⟨.v1, [0x70, 0x00, 0xFF], ⟨.response, -1, 2147483647, -2147483648,
      [⟨⟨[2, 4294967215, 0]⟩, .integer (-9223372036854775808)⟩,
        ⟨⟨[1, 39]⟩, .counter64 18446744073709551615⟩,
        ⟨⟨[0, 0, 4294967295]⟩, .objectIdentifier ⟨[2, 0, 128]⟩⟩,
        ⟨⟨[1, 3, 6]⟩, .unknown 0x47 [0x9F, 0x78]⟩, ⟨⟨[1, 3, 7]⟩, .endOfMibView⟩]⟩⟩
    decode message.encode = .ok message :=
  decode_encode _ (by decide +kernel) (by decide +kernel)

end Message

end SnmpManager
