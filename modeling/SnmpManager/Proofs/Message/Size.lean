import SnmpManager.Proofs.Message.RoundTrip

/-!
# How long messages are

Whether a message is read at all is a matter of its length. Beside its community and
its bindings it takes few octets (`Message.overhead`).

- `Message.length_content_le`, `Message.length_content_ge`: bounds on the content of
  a message.
- `Message.decode_long`: a message whose content is longer than what is read is
  refused.
-/

namespace SnmpManager

theorem Octets.length_number_le (n : Int32) : (number n).length ≤ 14 := by
  have digits := Integer.length_octets_le (Integer.within_int64 n.toInt64) (by decide)
  have element := length_element_le Tag.integer (Integer.octets n.toInt64.toInt)
  rw [number]
  omega

/-- What a message takes beside its community and its bindings: four numbers, and the headers of the
community and of the unit. -/
def Message.overhead : Nat := 68

/-- The content of a message is bounded by its community, its bindings and `overhead`. -/
theorem Message.length_content_le (message : Message) :
    message.content.length ≤ message.community.length
      + (VarBindList.octets message.pdu.bindings).length + overhead := by
  have version := Octets.length_number_le message.version.number
  have community := Octets.length_element_le Tag.octetString message.community
  have pdu := Octets.length_element_le message.pdu.kind.tag message.pdu.content
  have requestId := Octets.length_number_le message.pdu.requestId
  have errorStatus := Octets.length_number_le message.pdu.errorStatus
  have errorIndex := Octets.length_number_le message.pdu.errorIndex
  have inside : message.pdu.content.length ≤ 42
      + (VarBindList.octets message.pdu.bindings).length := by
    rw [Pdu.content, List.length_append, List.length_append, List.length_append]
    omega
  rw [content, List.length_append, List.length_append, Pdu.octets, overhead]
  omega

/-- The bindings of a message are part of its content. -/
theorem Message.length_content_ge (message : Message) :
    (VarBindList.octets message.pdu.bindings).length ≤ message.content.length := by
  have unit := Octets.length_lt_element message.pdu.kind.tag message.pdu.content
  rw [content, List.length_append, List.length_append, Pdu.octets]
  simp only [Pdu.content, List.length_append] at unit ⊢
  omega

/-- A message whose content is longer than `Length.max` is refused by its length. -/
theorem Message.decode_long {content : Octets} (long : Length.max < content.length)
    (h : content.length < 2 ^ 32) :
    decode (Octets.element Tag.sequence content)
      = .error ⟨1, .lengthExceedsMax content.length Length.max⟩ := by
  rw [decode, Read.of, Cursor.ofOctets, read, Read.on_bind, Read.sequence, Read.constructed,
    Read.on_bind, Octets.element, Read.expect_long Tag.sequence long h]

end SnmpManager
