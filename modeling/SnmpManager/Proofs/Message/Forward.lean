import SnmpManager.Message
import SnmpManager.Proofs.Ber.Forward
import SnmpManager.Proofs.Value.Wire

/-!
# Messages written forwards

The form of a message as a standard gives it: each part in its place, each length the
shortest one of what follows. `Buffer.writes_forwards` says that this is what the
encoder puts out, which writes the last part first.

- `Value.tlv`, `VarBind.tlv`, `VarBindList.tlv`, `Pdu.tlv`, `Message.tlv`: that form.
- `Message.operation` and its parts: what is done to a buffer to write a message.
-/

namespace SnmpManager

open Buffer (Operation)

/-! ## Values -/

namespace Value

/-- A value in its form. -/
def tlv (value : Value) : Octets :=
  Octets.tlv value.tag value.content

/-- What is done to write a value. -/
def operation : Value → Operation
  | .integer n => .integer n
  | .octetString content => .octetString content
  | .null => .blank Tag.null
  | .objectIdentifier oid => .objectIdentifier oid
  | .ipAddress addr => .ipAddress addr
  | .counter32 n => .unsigned Tag.counter32 n.toUInt64
  | .gauge32 n => .unsigned Tag.gauge32 n.toUInt64
  | .timeTicks n => .unsigned Tag.timeTicks n.toUInt64
  | .opaqueData content => .tagged Tag.opaqueData content
  | .counter64 n => .unsigned Tag.counter64 n
  | .noSuchObject => .blank Tag.noSuchObject
  | .noSuchInstance => .blank Tag.noSuchInstance
  | .endOfMibView => .blank Tag.endOfMibView
  | .unknown tag content => .tagged tag content

/-- `Value.write` is its `operation`, so what is proved of operations is proved of values. -/
theorem run_operation (value : Value) (buffer : Buffer) :
    value.operation.run buffer = value.write buffer := by
  cases value <;> rfl

theorem octets_operation (value : Value) : value.operation.octets = value.tlv := by
  cases value <;> rfl

theorem short_operation {value : Value} (short : value.content.length < 2 ^ 32) :
    value.operation.Short := by
  cases value with
  | octetString | opaqueData | unknown | objectIdentifier => exact short
  | integer | null | ipAddress | counter32 | gauge32 | timeTicks | counter64 | noSuchObject
  | noSuchInstance | endOfMibView => trivial

end Value

/-! ## Bindings -/

namespace VarBind

/-- An object and its value in their form. -/
def body (binding : VarBind) : Octets :=
  Octets.tlv Tag.objectIdentifier binding.oid.octets ++ binding.value.tlv

/-- A binding in its form. -/
def tlv (binding : VarBind) : Octets :=
  Octets.tlv Tag.sequence binding.body

/-- What is done to write a binding. -/
def operation (binding : VarBind) : Operation :=
  .sequence [binding.value.operation, .objectIdentifier binding.oid]

/-- `VarBind.write` is its `operation`: the value goes in first, since it stands last. -/
theorem run_operation (binding : VarBind) (buffer : Buffer) :
    binding.operation.run buffer = binding.write buffer := by
  have inside : Operation.runAll [binding.value.operation, .objectIdentifier binding.oid]
      = fun b => (binding.value.write b).objectIdentifier binding.oid := by
    funext b
    simp only [Operation.runAll, Value.run_operation, Operation.run]
  rw [operation, Operation.run, inside, write]

theorem octets_operation (binding : VarBind) : binding.operation.octets = binding.tlv := by
  simp only [operation, Operation.octets, Operation.octetsAll, Value.octets_operation, tlv, body,
    List.nil_append]

end VarBind

namespace VarBindList

/-- Bindings in their form, one after another. -/
def body (bindings : List VarBind) : Octets :=
  bindings.flatMap VarBind.tlv

/-- A list of bindings in its form. -/
def tlv (bindings : List VarBind) : Octets :=
  Octets.tlv Tag.sequence (body bindings)

/-- What is done to write a list of bindings, of which the last is written first. -/
def operation (bindings : List VarBind) : Operation :=
  .sequence (bindings.reverse.map VarBind.operation)

/-- `VarBindList.write` is its `operation`. -/
theorem run_operation (bindings : List VarBind) (buffer : Buffer) :
    (operation bindings).run buffer = write bindings buffer := by
  have inside : Operation.runAll (bindings.reverse.map VarBind.operation)
      = fun b => bindings.foldr VarBind.write b := by
    funext b
    rw [Operation.runAll_eq_foldl, List.foldl_map, List.foldl_reverse]
    simp only [VarBind.run_operation]
  rw [operation, Operation.run, inside, write]

/-- The octets of operations come out in reverse order, and the bindings were put in reversed. -/
theorem octetsAll_operation (bindings : List VarBind) :
    Operation.octetsAll (bindings.reverse.map VarBind.operation) = body bindings := by
  rw [Operation.octetsAll_eq, ← List.map_reverse, List.reverse_reverse, List.flatMap_map]
  simp only [VarBind.octets_operation, body]

theorem octets_operation (bindings : List VarBind) :
    (operation bindings).octets = tlv bindings := by
  rw [operation, Operation.octets, octetsAll_operation, tlv]

theorem short_operation {bindings : List VarBind} (short : (body bindings).length < 2 ^ 32) :
    (operation bindings).Short := by
  rw [← octetsAll_operation] at short
  exact Operation.short_sequence short

end VarBindList

/-! ## Units and messages -/

/-- A number of 32 bits in its form. -/
def Octets.tlvNumber (n : Int32) : Octets :=
  tlv Tag.integer (Integer.octets n.toInt64.toInt)

namespace Pdu

/-- The fields of a unit in their form. -/
def body (pdu : Pdu) : Octets :=
  Octets.tlvNumber pdu.requestId ++ Octets.tlvNumber pdu.errorStatus ++
    Octets.tlvNumber pdu.errorIndex ++ VarBindList.tlv pdu.bindings

/-- A unit in its form. -/
def tlv (pdu : Pdu) : Octets :=
  Octets.tlv pdu.kind.tag pdu.body

/-- What is done inside a unit to write it. -/
def operations (pdu : Pdu) : List Operation :=
  [VarBindList.operation pdu.bindings, .integer pdu.errorIndex.toInt64,
    .integer pdu.errorStatus.toInt64, .integer pdu.requestId.toInt64]

/-- What is done to write a unit. -/
def operation (pdu : Pdu) : Operation :=
  .constructed pdu.kind.tag pdu.operations

/-- `Pdu.write` is its `operation`. -/
theorem run_operation (pdu : Pdu) (buffer : Buffer) :
    pdu.operation.run buffer = pdu.write buffer := by
  have inside : Operation.runAll pdu.operations
      = fun b => (((VarBindList.write pdu.bindings b).integer pdu.errorIndex.toInt64).integer
        pdu.errorStatus.toInt64).integer pdu.requestId.toInt64 := by
    funext b
    simp only [operations, Operation.runAll, VarBindList.run_operation, Operation.run]
  rw [operation, Operation.run, inside, write]

theorem octetsAll_operations (pdu : Pdu) : Operation.octetsAll pdu.operations = pdu.body := by
  simp only [operations, Operation.octetsAll, Operation.octets, VarBindList.octets_operation,
    body, Octets.tlvNumber, List.nil_append]

theorem octets_operation (pdu : Pdu) : pdu.operation.octets = pdu.tlv := by
  rw [operation, Operation.octets, octetsAll_operations, tlv]

theorem short_operation {pdu : Pdu} (short : pdu.body.length < 2 ^ 32) :
    pdu.operation.Short := by
  rw [← octetsAll_operations] at short
  exact Operation.short_constructed pdu.kind.tag short

end Pdu

namespace Message

/-- The fields of a message in their form. -/
def body (message : Message) : Octets :=
  Octets.tlvNumber message.version.number ++ Octets.tlv Tag.octetString message.community ++
    message.pdu.tlv

/-- A message in its form. -/
def tlv (message : Message) : Octets :=
  Octets.tlv Tag.sequence message.body

/-- What is done inside a message to write it. -/
def operations (message : Message) : List Operation :=
  [message.pdu.operation, .octetString message.community,
    .integer message.version.number.toInt64]

/-- What is done to write a message. -/
def operation (message : Message) : Operation :=
  .sequence message.operations

/-- `Message.write` is its `operation`. -/
theorem run_operation (message : Message) (buffer : Buffer) :
    message.operation.run buffer = message.write buffer := by
  have inside : Operation.runAll message.operations
      = fun b => ((message.pdu.write b).octetString message.community).integer
        message.version.number.toInt64 := by
    funext b
    simp only [operations, Operation.runAll, Pdu.run_operation, Operation.run]
  rw [operation, Operation.run, inside, write]

theorem octetsAll_operations (message : Message) :
    Operation.octetsAll message.operations = message.body := by
  simp only [operations, Operation.octetsAll, Operation.octets, Pdu.octets_operation, body,
    Octets.tlvNumber, List.nil_append]

theorem octets_operation (message : Message) : message.operation.octets = message.tlv := by
  rw [operation, Operation.octets, octetsAll_operations, tlv]

theorem short_operation {message : Message} (short : message.body.length < 2 ^ 32) :
    message.operation.Short := by
  rw [← octetsAll_operations] at short
  exact Operation.short_sequence short

end Message

/-! ## The encoder -/

/-- Whatever is done to a buffer puts what it amounts to in front of what is there, the last thing
done first, and leaves that as it is. So what is written of a message and of its parts is their
`tlv`. -/
theorem Buffer.writes_forwards :
    (∀ (operations : List Operation) (buffer : Buffer), Operation.ShortAll operations →
      (Operation.runAll operations buffer).octets
        = operations.reverse.flatMap Operation.octets ++ buffer.octets) ∧
    (∀ (value : Value) (buffer : Buffer), value.content.length < 2 ^ 32 →
      (value.write buffer).octets = value.tlv ++ buffer.octets) ∧
    (∀ (bindings : List VarBind) (buffer : Buffer), (VarBindList.body bindings).length < 2 ^ 32 →
      (VarBindList.write bindings buffer).octets = VarBindList.tlv bindings ++ buffer.octets) ∧
    (∀ (pdu : Pdu) (buffer : Buffer), pdu.body.length < 2 ^ 32 →
      (pdu.write buffer).octets = pdu.tlv ++ buffer.octets) ∧
    ∀ message : Message, message.body.length < 2 ^ 32 → message.encode = message.tlv := by
  refine ⟨?_, ?_, ?_, ?_, ?_⟩
  · intro operations buffer short
    rw [Operation.octets_runAll operations buffer short, Operation.octetsAll_eq]
  · intro value buffer short
    rw [← Value.run_operation, Operation.octets_run _ buffer (Value.short_operation short),
      Value.octets_operation]
  · intro bindings buffer short
    rw [← VarBindList.run_operation,
      Operation.octets_run _ buffer (VarBindList.short_operation short),
      VarBindList.octets_operation]
  · intro pdu buffer short
    rw [← Pdu.run_operation, Operation.octets_run _ buffer (Pdu.short_operation short),
      Pdu.octets_operation]
  · intro message short
    -- the buffer of a whole message is empty at first
    rw [Message.encode, ← Message.run_operation,
      Operation.octets_run _ .empty (Message.short_operation short), Message.octets_operation,
      octets_empty, List.append_nil]

/-- Constructed values inside one another, a length of two octets, and octets that were there
before. -/
theorem Buffer.writes_forwards_nested :
    let operations : List Operation :=
      [.sequence [.constructed 0xA2 [.blank Tag.null, .integer 200], .bytes [0x02, 0x00]],
        .octetString (List.replicate 200 0xAB)]
    let bindings : List VarBind := [⟨⟨[1, 3, 6]⟩, .counter32 255⟩, ⟨⟨[1, 3, 7]⟩, .null⟩]
    let message : Message := ⟨.v2c, [0x70], ⟨.response, 7, 0, 0, bindings⟩⟩
    let buffer : Buffer := ⟨#[0xEE]⟩
    (Operation.runAll operations buffer).octets
      = operations.reverse.flatMap Operation.octets ++ [0xEE] ∧
    (Operation.runAll operations buffer).octets
      = 0x04 :: 0x81 :: 0xC8 :: List.replicate 200 0xAB
        ++ [0x30, 0x0A, 0x02, 0x00, 0xA2, 0x06, 0x02, 0x02, 0x00, 0xC8, 0x05, 0x00, 0xEE] ∧
    ((Value.counter32 255).write buffer).octets = Value.tlv (.counter32 255) ++ [0xEE] ∧
    (VarBindList.write bindings buffer).octets = VarBindList.tlv bindings ++ [0xEE] ∧
    (message.pdu.write buffer).octets = message.pdu.tlv ++ [0xEE] ∧
    message.encode = message.tlv := by
  intro operations bindings message buffer
  obtain ⟨every, value, list, pdu, whole⟩ := writes_forwards
  have short : Operation.ShortAll operations := by
    refine ⟨Operation.short_sequence (by decide), ?_, trivial⟩
    show (List.replicate 200 _).length < _
    rw [List.length_replicate]
    decide
  exact ⟨every operations buffer short, by decide +kernel, value _ buffer (by decide),
    list bindings buffer (by decide), pdu message.pdu buffer (by decide),
    whole message (by decide)⟩

end SnmpManager
