import SnmpManager.Proofs.Ber.Takes
import SnmpManager.VarBind

/-!
# Values and bindings on the wire and back

- `Value.octets`, `VarBind.octets`: what the writers put in front of a buffer,
  as plain octets (`Value.octets_write`, `VarBind.octets_write`,
  `VarBindList.octets_write`).
- `Value.Encodable`, `VarBind.Encodable`: the domain of the codec. An unknown
  value must not have a tag that means something.
- `Value.takes_read`, `VarBind.takes_read`, `VarBindList.takes_read`: what was
  written reads back.
-/

namespace SnmpManager

/-! ## Values -/

namespace Value

/-- The tag of a value. -/
def tag : Value → UInt8
  | .integer _ => Tag.integer
  | .octetString _ => Tag.octetString
  | .null => Tag.null
  | .objectIdentifier _ => Tag.objectIdentifier
  | .ipAddress _ => Tag.ipAddress
  | .counter32 _ => Tag.counter32
  | .gauge32 _ => Tag.gauge32
  | .timeTicks _ => Tag.timeTicks
  | .opaqueData _ => Tag.opaqueData
  | .counter64 _ => Tag.counter64
  | .noSuchObject => Tag.noSuchObject
  | .noSuchInstance => Tag.noSuchInstance
  | .endOfMibView => Tag.endOfMibView
  | .unknown tag _ => tag

/-- The content octets of a value. -/
def content : Value → Octets
  | .integer n => Integer.octets n.toInt
  | .octetString content | .opaqueData content | .unknown _ content => content
  | .objectIdentifier oid => oid.octets
  | .ipAddress addr => addr.octets
  | .counter32 n | .gauge32 n | .timeTicks n => Integer.octets n.toUInt64.toNat
  | .counter64 n => Integer.octets n.toNat
  | .null | .noSuchObject | .noSuchInstance | .endOfMibView => []

/-- The octets of a value. -/
def octets (value : Value) : Octets :=
  Octets.element value.tag value.content

/-- `Value.write` puts the octets of a value in front of a buffer. -/
theorem octets_write (value : Value) (buffer : Buffer) :
    (value.write buffer).octets = value.octets ++ buffer.octets := by
  rw [octets, Octets.element_append]
  cases value <;>
    simp only [write, tag, content, Buffer.integer, Buffer.octetString, Buffer.blank,
      Buffer.objectIdentifier, Buffer.ipAddress, Buffer.unsigned, Buffer.octets_tagged,
      Buffer.octets_tag, Buffer.octets_lengthField, List.length_nil, List.nil_append]

/-- The values that come back as they were. -/
def Encodable : Value → Prop
  | .objectIdentifier oid => oid.Encodable
  | .unknown tag _ => Tag.ValueKind.ofTag? tag = none
  | _ => True

instance : (value : Value) → Decidable value.Encodable
  | .objectIdentifier oid => inferInstanceAs (Decidable oid.Encodable)
  | .unknown tag _ => inferInstanceAs (Decidable (Tag.ValueKind.ofTag? tag = none))
  | .integer _ | .octetString _ | .null | .ipAddress _ | .counter32 _ | .gauge32 _
  | .timeTicks _ | .opaqueData _ | .counter64 _ | .noSuchObject | .noSuchInstance
  | .endOfMibView => inferInstanceAs (Decidable True)

/-- A number of 32 bits is sent as one of 64, whose leading octets are zeros. -/
theorem takes_readUnsigned32 (n : UInt32) :
    Read.Takes (readUnsigned32 (Integer.octets n.toUInt64.toNat).length)
      (Integer.octets n.toUInt64.toNat) n := by
  have small : n.toUInt64.toNat < 256 ^ (32 / 8) := by
    rw [UInt32.toNat_toUInt64]
    exact n.toNat_lt
  have := (Read.takes_unsignedContent 32 small).map UInt64.toUInt32
  rwa [UInt32.toUInt32_toUInt64] at this

theorem takes_readBlank (value : Value) : Read.Takes (readBlank 0 value) [] value :=
  (Read.takes_bytes []).map fun _ => value

theorem takes_readIpAddress (addr : Ipv4) :
    Read.Takes (readIpAddress addr.octets.length) addr.octets (.ipAddress addr) := by
  obtain ⟨a, b, c, d⟩ := addr
  exact (Read.takes_bytes [a, b, c, d]).bind_nil _ (Read.takes_pure (Value.ipAddress ⟨a, b, c, d⟩))

/-- Under a tag with a meaning, a value is read by `readContent` of its kind. -/
theorem takes_read_of_kind (kind : Tag.ValueKind) {content : Octets} {value : Value}
    (h : Read.Takes (readContent content.length kind) content value)
    (short : content.length ≤ Length.max) :
    Read.Takes read (Octets.element kind.tag content) value := by
  rw [Octets.element_eq]
  refine (Read.takes_tag kind.tag).bind ((Read.takes_length short).bind ?_)
  rw [Tag.ValueKind.ofTag?_tag]
  exact h

/-- An `Encodable` value reads back, kind by kind; only an object and an unknown tag can be outside
the domain. -/
theorem takes_read {value : Value} (h : value.Encodable)
    (short : value.octets.length ≤ Length.max) : Read.Takes read value.octets value := by
  -- what reads the content needs it to be short enough by itself
  have short : value.content.length ≤ Length.max :=
    Nat.le_of_lt (Nat.lt_of_lt_of_le (Octets.length_lt_element _ _) short)
  cases value with
  | integer n =>
    refine takes_read_of_kind .integer ?_ short
    exact (Read.takes_integerContent n).map Value.integer
  | octetString content =>
    refine takes_read_of_kind .octetString ?_ short
    exact (Read.takes_bytes content).map Value.octetString
  | null => exact takes_read_of_kind .null (takes_readBlank .null) short
  | objectIdentifier oid =>
    refine takes_read_of_kind .objectIdentifier ?_ short
    exact (Read.takes_oidContent h).map Value.objectIdentifier
  | ipAddress addr =>
    exact takes_read_of_kind .ipAddress (takes_readIpAddress addr) short
  | counter32 n =>
    refine takes_read_of_kind .counter32 ?_ short
    exact (takes_readUnsigned32 n).map Value.counter32
  | gauge32 n =>
    refine takes_read_of_kind .gauge32 ?_ short
    exact (takes_readUnsigned32 n).map Value.gauge32
  | timeTicks n =>
    refine takes_read_of_kind .timeTicks ?_ short
    exact (takes_readUnsigned32 n).map Value.timeTicks
  | opaqueData content =>
    refine takes_read_of_kind .opaqueData ?_ short
    exact (Read.takes_bytes content).map Value.opaqueData
  | counter64 n =>
    refine takes_read_of_kind .counter64 ?_ short
    exact (Read.takes_unsignedContent 64 n.toNat_lt).map Value.counter64
  | noSuchObject =>
    exact takes_read_of_kind .noSuchObject (takes_readBlank .noSuchObject) short
  | noSuchInstance =>
    exact takes_read_of_kind .noSuchInstance (takes_readBlank .noSuchInstance) short
  | endOfMibView =>
    exact takes_read_of_kind .endOfMibView (takes_readBlank .endOfMibView) short
  | unknown tag content =>
    rw [octets, Octets.element_eq]
    refine (Read.takes_tag tag).bind ((Read.takes_length short).bind ?_)
    rw [show Tag.ValueKind.ofTag? tag = none from h]
    exact (Read.takes_bytes content).map (Value.unknown tag)

end Value

/-! ## Bindings -/

namespace VarBind

/-- The octets of a binding. -/
def octets (binding : VarBind) : Octets :=
  Octets.element Tag.sequence
    (Octets.element Tag.objectIdentifier binding.oid.octets ++ binding.value.octets)

/-- `VarBind.write` puts the octets of a binding in front of a buffer. -/
theorem octets_write (binding : VarBind) (buffer : Buffer) :
    (binding.write buffer).octets = binding.octets ++ buffer.octets := by
  have adds : ((binding.value.write buffer).objectIdentifier binding.oid).octets
      = (Octets.element Tag.objectIdentifier binding.oid.octets ++ binding.value.octets)
        ++ buffer.octets := by
    rw [Buffer.objectIdentifier, Buffer.octets_tagged, Value.octets_write, List.append_assoc,
      Octets.element_append]
  rw [write, octets, Octets.element_append Tag.sequence]
  exact Buffer.octets_constructed buffer Tag.sequence adds

theorem octets_ne_nil (binding : VarBind) : binding.octets ≠ [] := by
  simp [octets, Octets.element]

/-- The bindings that come back as they were. -/
structure Encodable (binding : VarBind) : Prop where
  oid : binding.oid.Encodable
  value : binding.value.Encodable

instance (binding : VarBind) : Decidable binding.Encodable :=
  decidable_of_iff (binding.oid.Encodable ∧ binding.value.Encodable)
    ⟨fun ⟨oid, value⟩ => ⟨oid, value⟩, fun h => ⟨h.oid, h.value⟩⟩

/-- An `Encodable` binding reads back, its object before its value. -/
theorem takes_read {binding : VarBind} (h : binding.Encodable)
    (short : binding.octets.length ≤ Length.max) :
    Read.Takes read binding.octets binding := by
  have content := Nat.le_of_lt (Nat.lt_of_lt_of_le (Octets.length_lt_element _ _) short)
  have parts := content
  rw [List.length_append] at parts
  have oid : Read.Takes Read.objectIdentifier
      (Octets.element Tag.objectIdentifier binding.oid.octets) binding.oid := by
    have := Octets.length_lt_element Tag.objectIdentifier binding.oid.octets
    exact Read.takes_objectIdentifier h.oid (by omega)
  have value := Value.takes_read h.value (by omega)
  have inside : Read.Takes (do
      let oid ← Read.objectIdentifier
      let value ← Value.read
      return (⟨oid, value⟩ : VarBind)) _ binding :=
    oid.bind (value.map (VarBind.mk binding.oid))
  exact (Read.takes_constructed Tag.sequence content).bind_nil _ (Read.takes_within inside.of_eq)

end VarBind

namespace VarBindList

/-- The octets of some bindings, one after another. -/
def content (bindings : List VarBind) : Octets :=
  bindings.flatMap VarBind.octets

/-- The octets of a list of bindings. -/
def octets (bindings : List VarBind) : Octets :=
  Octets.element Tag.sequence (content bindings)

/-- The last binding is written first, so that the first stands in front. -/
theorem octets_foldr_write (bindings : List VarBind) (buffer : Buffer) :
    (bindings.foldr VarBind.write buffer).octets = content bindings ++ buffer.octets := by
  induction bindings with
  | nil => rfl
  | cons binding rest ih =>
    rw [List.foldr_cons, VarBind.octets_write, ih, content, content, List.flatMap_cons,
      List.append_assoc]

theorem octets_write (bindings : List VarBind) (buffer : Buffer) :
    (write bindings buffer).octets = octets bindings ++ buffer.octets := by
  rw [write, octets, Octets.element_append Tag.sequence]
  exact Buffer.octets_constructed buffer Tag.sequence (octets_foldr_write bindings buffer)

/-- Each binding takes an octet at least, so the octets are enough fuel. -/
theorem length_le_content (bindings : List VarBind) :
    bindings.length ≤ (content bindings).length := by
  induction bindings with
  | nil => simp
  | cons binding rest ih =>
    have := List.length_pos_iff.mpr binding.octets_ne_nil
    rw [content] at ih ⊢
    rw [List.flatMap_cons, List.length_append, List.length_cons]
    omega

/-- Where no octets are left, `readAll` finds no more bindings. -/
theorem readAll_of_atEnd {cursor : Cursor} (ended : cursor.atEnd = true) (fuel : Nat) :
    (readAll fuel).on cursor = (.ok [], cursor) := by
  cases fuel with
  | zero => rfl
  | succ fuel =>
    rw [readAll, Read.on_bind, Read.on_get]
    simp only [ended, if_true, Read.on_pure]

/-- Where octets are left, `readAll` reads a binding and goes on. -/
theorem readAll_of_more {cursor : Cursor} (more : cursor.atEnd = false) (fuel : Nat) :
    (readAll (fuel + 1)).on cursor
      = (do return (← VarBind.read) :: (← readAll fuel) : Read (List VarBind)).on cursor := by
  rw [readAll, Read.on_bind, Read.on_get]
  simp only [more, Bool.false_eq_true, if_false]

/-- By induction on the bindings: `readAll` reads them back up to the end of the octets. -/
theorem readAll_content {bindings : List VarBind} (h : ∀ binding ∈ bindings, binding.Encodable)
    (short : (content bindings).length ≤ Length.max) {fuel : Nat} (enough : bindings.length ≤ fuel)
    (offset : Nat) :
    (readAll fuel).on ⟨offset, content bindings⟩
      = (.ok bindings, ⟨offset + (content bindings).length, []⟩) := by
  induction bindings generalizing fuel offset with
  | nil => cases fuel <;> rfl
  | cons binding rest ih =>
    obtain ⟨fuel, rfl⟩ : ∃ k, fuel = k + 1 :=
      Nat.exists_eq_succ_of_ne_zero (Nat.ne_of_gt (Nat.lt_of_lt_of_le (Nat.succ_pos _) enough))
    have split : content (binding :: rest) = binding.octets ++ content rest := List.flatMap_cons
    rw [split, List.length_append] at short ⊢
    have first := VarBind.takes_read (h binding List.mem_cons_self) (by omega) offset (content rest)
    have others := ih (fun b mem => h b (List.mem_cons_of_mem _ mem)) (by omega)
      (Nat.le_of_succ_le_succ enough) (offset + binding.octets.length)
    -- a binding takes an octet at least, so the reader does not stop before it
    have more : (Cursor.mk offset (binding.octets ++ content rest)).atEnd = false := by
      simp [Cursor.atEnd, VarBind.octets_ne_nil]
    rw [readAll_of_more more, Read.on_bind, first]
    simp only
    rw [Read.on_bind, others]
    simp only [Read.on_pure, Nat.add_assoc]

/-- A list of `Encodable` bindings reads back. -/
theorem takes_read {bindings : List VarBind} (h : ∀ binding ∈ bindings, binding.Encodable)
    (short : (octets bindings).length ≤ Length.max) :
    Read.Takes read (octets bindings) bindings := by
  have short := Nat.le_of_lt (Nat.lt_of_lt_of_le (Octets.length_lt_element _ _) short)
  have inside : (readAll (content bindings).length).of (content bindings) = .ok bindings := by
    rw [Read.of, Cursor.ofOctets, readAll_content h short (length_le_content bindings)]
  exact (Read.takes_constructed Tag.sequence short).bind_nil
    (fun content => Read.within content (readAll content.remaining)) (Read.takes_within inside)

end VarBindList

end SnmpManager
