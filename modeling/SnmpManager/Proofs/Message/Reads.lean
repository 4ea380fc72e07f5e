import SnmpManager.Message
import SnmpManager.Proofs.Ber.Plain

/-!
# Reads in any order

Whoever holds a cursor may read anything from it, in any order, and go on after a read
that failed. `Cursor.reads_safe` says what that cannot do to the cursor: it never
goes back and never past the end, and it stays where it is before a tag that is not due.

- `Cursor.Operation`: what can be read, and `Operation.awaited?`, the tag that is due.
-/

namespace SnmpManager

/-! ## Values, bindings and units are plain reads -/

namespace Value

theorem plain_readUnsigned32 (n : Nat) : Read.Plain (readUnsigned32 n) :=
  (Read.plain_unsignedContent n 32).bind fun _ => .pure _

theorem plain_readBlank (n : Nat) (value : Value) : Read.Plain (readBlank n value) :=
  (Read.Plain.bytes n).bind fun _ => .pure _

/-- Both of its faults come before or after the four octets of the address. -/
theorem plain_readIpAddress (n : Nat) : Read.Plain (readIpAddress n) := by
  unfold readIpAddress
  split
  case isTrue => exact Read.plain_fail _
  case isFalse =>
    refine (Read.Plain.bytes 4).bind fun content => ?_
    split
    case h_1 => exact .pure _
    case h_2 => exact Read.plain_fail _

/-- Each kind of content is one read of octets and what is made of them. -/
theorem plain_readContent (n : Nat) (kind : Tag.ValueKind) : Read.Plain (readContent n kind) := by
  cases kind with
  | integer => exact (Read.plain_integerContent n).bind fun _ => .pure _
  | octetString | opaqueData => exact (Read.Plain.bytes n).bind fun _ => .pure _
  | objectIdentifier => exact (Read.plain_oidContent n).bind fun _ => .pure _
  | ipAddress => exact plain_readIpAddress n
  | counter32 | gauge32 | timeTicks => exact (plain_readUnsigned32 n).bind fun _ => .pure _
  | counter64 => exact (Read.plain_unsignedContent n 64).bind fun _ => .pure _
  | null | noSuchObject | noSuchInstance | endOfMibView => exact plain_readBlank n _

theorem plain_read : Read.Plain read := by
  refine Read.Plain.tag.bind fun tag => Read.Plain.length.bind fun n => ?_
  split
  case h_1 kind _ => exact plain_readContent n kind
  case h_2 => exact (Read.Plain.bytes n).bind fun _ => .pure _

end Value

theorem VarBind.plain_read : Read.Plain VarBind.read :=
  (Read.plain_constructed Tag.sequence).bind fun content => .within content _

theorem VarBindList.plain_read : Read.Plain VarBindList.read :=
  (Read.plain_constructed Tag.sequence).bind fun content => .within content _

theorem Pdu.plain_read : Read.Plain Pdu.read := by
  unfold Pdu.read
  refine .look (fun cursor => Read.Plain.tag.bind fun tag => ?_) fun _ _ same => ?_
  · split
    case h_1 => exact .throw _
    case h_2 kind _ =>
      refine Read.Plain.length.bind fun n => (Read.Plain.bytes n).bind fun content => ?_
      exact .within (.ofOctets content) (readFields kind)
  · simp only [same]

namespace Cursor

/-! ## Operations -/

/-- What can be read with a cursor, with what it is told. -/
inductive Operation where
  | peek
  | tag
  | length
  | bytes (n : Nat)
  | expect (t : UInt8)
  | integer
  | integer64
  | integerContent (n : Nat)
  | unsignedContent (n bits : Nat)
  | octetString
  | null
  | objectIdentifier
  | oidContent (n : Nat)
  | sequence
  | constructed (t : UInt8)
  | value
  | binding
  | bindings
  | pdu

namespace Operation

/-- Where the cursor is afterwards, whether the read yields anything or fails. -/
def after (cursor : Cursor) : Operation → Cursor
  | .peek => cursor
  | .tag => (Read.tag.on cursor).2
  | .length => (Read.length.on cursor).2
  | .bytes n => ((Read.bytes n).on cursor).2
  | .expect t => ((Read.expect t).on cursor).2
  | .integer => (Read.integer.on cursor).2
  | .integer64 => (Read.integer64.on cursor).2
  | .integerContent n => ((Read.integerContent n).on cursor).2
  | .unsignedContent n bits => ((Read.unsignedContent n bits).on cursor).2
  | .octetString => (Read.octetString.on cursor).2
  | .null => (Read.null.on cursor).2
  | .objectIdentifier => (Read.objectIdentifier.on cursor).2
  | .oidContent n => ((Read.oidContent n).on cursor).2
  | .sequence => (Read.sequence.on cursor).2
  | .constructed t => ((Read.constructed t).on cursor).2
  | .value => (Value.read.on cursor).2
  | .binding => (VarBind.read.on cursor).2
  | .bindings => (VarBindList.read.on cursor).2
  | .pdu => (Pdu.read.on cursor).2

/-- The tag that is due, if it is a certain one. -/
def awaited? : Operation → Option UInt8
  | .expect t | .constructed t => some t
  | .integer | .integer64 => some Tag.integer
  | .octetString => some Tag.octetString
  | .null => some Tag.null
  | .objectIdentifier => some Tag.objectIdentifier
  | .sequence | .binding | .bindings => some Tag.sequence
  | .peek | .tag | .length | .bytes _ | .integerContent _ | .unsignedContent _ _ | .oidContent _
  | .value | .pdu => none

/-- The step lemma: each operation is a `Plain` read, which goes forward and not past the end. -/
theorem within_after {cursor : Cursor} {data : Octets} (place : cursor.Within data)
    (operation : Operation) :
    (operation.after cursor).Within data ∧ cursor.offset ≤ (operation.after cursor).offset := by
  cases operation with
  | peek => exact ⟨place, Nat.le_refl _⟩
  | tag => exact Read.Plain.tag.within_after place
  | length => exact Read.Plain.length.within_after place
  | bytes n => exact (Read.Plain.bytes n).within_after place
  | expect t => exact (Read.Plain.expect t).within_after place
  | integer => exact Read.plain_integer.within_after place
  | integer64 => exact Read.plain_integer64.within_after place
  | integerContent n => exact (Read.plain_integerContent n).within_after place
  | unsignedContent n bits => exact (Read.plain_unsignedContent n bits).within_after place
  | octetString => exact Read.plain_octetString.within_after place
  | null => exact Read.plain_null.within_after place
  | objectIdentifier => exact Read.plain_objectIdentifier.within_after place
  | oidContent n => exact (Read.plain_oidContent n).within_after place
  | sequence => exact (Read.plain_constructed Tag.sequence).within_after place
  | constructed t => exact (Read.plain_constructed t).within_after place
  | value => exact Value.plain_read.within_after place
  | binding => exact VarBind.plain_read.within_after place
  | bindings => exact VarBindList.plain_read.within_after place
  | pdu => exact Pdu.plain_read.within_after place

/-- Before another tag than the one that is `awaited?`, a read does not move. -/
theorem after_eq {cursor : Cursor} {operation : Operation} {t : UInt8}
    (due : operation.awaited? = some t) (other : cursor.peek? ≠ some t) :
    operation.after cursor = cursor := by
  have header := Read.awaits_expect t
  cases operation with
  | expect =>
    cases due
    exact header.after_eq other
  | integer64 | octetString | null | objectIdentifier | sequence | constructed =>
    cases due
    exact (header.bind _).after_eq other
  | integer | binding | bindings =>
    cases due
    exact ((header.bind _).bind _).after_eq other
  | peek | tag | length | bytes | integerContent | unsignedContent | oidContent | value | pdu =>
    cases due

end Operation

/-- Where the cursor is after some reads, each from where the one before it stopped. -/
def perform (cursor : Cursor) (operations : List Operation) : Cursor :=
  operations.foldl (fun cursor operation => operation.after cursor) cursor

/-- The run lemma: `within_after` at each operation. -/
theorem within_perform {cursor : Cursor} {data : Octets} (place : cursor.Within data)
    (operations : List Operation) :
    (cursor.perform operations).Within data ∧
      cursor.offset ≤ (cursor.perform operations).offset := by
  induction operations generalizing cursor with
  | nil => exact ⟨place, Nat.le_refl _⟩
  | cons operation rest ih =>
    obtain ⟨between, forward⟩ := operation.within_after place
    obtain ⟨last, onward⟩ := ih between
    exact ⟨last, Nat.le_trans forward onward⟩

/-- After any reads, some of which may have failed, the cursor is `Within` the octets, and no
further read brings it back or past the end; before a tag that is not due, a read does not move.
What is read as octets, as a string or as what a constructed value holds is what lies between the
start of the content and where the cursor is then. -/
theorem reads_safe (data : Octets) (operations : List Operation) :
    let cursor := (ofOctets data).perform operations
    cursor.Within data ∧ cursor.offset + cursor.remaining = data.length ∧
    (∀ operation : Operation,
      (operation.after cursor).Within data ∧ cursor.offset ≤ (operation.after cursor).offset ∧
      ∀ t, operation.awaited? = some t → cursor.peek? ≠ some t →
        operation.after cursor = cursor) ∧
    (∀ n content after, (Read.bytes n).on cursor = (.ok content, after) →
      content = data.extract cursor.offset after.offset ∧ after.offset = cursor.offset + n) ∧
    (∀ content after, Read.octetString.on cursor = (.ok content, after) →
      ∃ n start, (Read.expect Tag.octetString).on cursor = (.ok n, start) ∧
        content = data.extract start.offset after.offset ∧ after.offset = start.offset + n) ∧
    ∀ t inner after, (Read.constructed t).on cursor = (.ok inner, after) →
      ∃ n start, (Read.expect t).on cursor = (.ok n, start) ∧
        inner = ofOctets (data.extract start.offset after.offset) ∧
        after.offset = start.offset + n := by
  intro cursor
  have place : cursor.Within data := (within_perform (within_ofOctets data) operations).1
  refine ⟨place, place.remaining_eq, fun operation => ?_, ?_, ?_, ?_⟩
  · obtain ⟨inside, forward⟩ := operation.within_after place
    exact ⟨inside, forward, fun t due other => Operation.after_eq due other⟩
  · intro n content after yields
    exact Read.eq_extract_of_bytes place yields
  · intro content after yields
    exact Read.eq_extract_of_octetString place yields
  · intro t inner after yields
    exact Read.eq_extract_of_constructed place yields

/-- A number that does not fit, a NULL where there is none, and more octets than there are; then a
string, and a SEQUENCE that says it is longer than what is left. -/
theorem reads_safe_hostile :
    let data : Octets :=
      [0x02, 0x05, 0x01, 0x00, 0x00, 0x00, 0x00, 0x04, 0x02, 0x61, 0x62, 0x30, 0x7F]
    let operations : List Operation := [.integer, .null, .bytes 0xFFFFFFFF]
    let cursor := (ofOctets data).perform operations
    cursor = ⟨7, [0x04, 0x02, 0x61, 0x62, 0x30, 0x7F]⟩ ∧
    Operation.binding.after cursor = cursor ∧
    [0x04, 0x02] = data.extract cursor.offset 9 ∧
    (∃ n start, (Read.expect Tag.octetString).on cursor = (.ok n, start) ∧
      [0x61, 0x62] = data.extract start.offset 11 ∧ 11 = start.offset + n) ∧
    (∃ n start, (Read.expect 0x04).on cursor = (.ok n, start) ∧
      ofOctets [0x61, 0x62] = ofOctets (data.extract start.offset 11) ∧ 11 = start.offset + n) ∧
    cursor.perform [.octetString, .sequence] = ⟨13, []⟩ := by
  intro data operations cursor
  obtain ⟨-, -, moves, bytes, octetString, constructed⟩ := reads_safe data operations
  refine ⟨by decide +kernel, ?_, ?_, ?_, ?_, by decide +kernel⟩
  · exact (moves .binding).2.2 Tag.sequence rfl (by decide +kernel)
  · exact (bytes 2 [0x04, 0x02] ⟨9, [0x61, 0x62, 0x30, 0x7F]⟩ (by decide +kernel)).1
  · exact octetString [0x61, 0x62] ⟨11, [0x30, 0x7F]⟩ (by decide +kernel)
  · exact constructed 0x04 (ofOctets [0x61, 0x62]) ⟨11, [0x30, 0x7F]⟩ (by decide +kernel)

end Cursor

end SnmpManager
