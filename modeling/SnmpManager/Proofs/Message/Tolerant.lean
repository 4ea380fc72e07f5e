import SnmpManager.Message
import SnmpManager.Proofs.Ber.Takes

/-!
# Reads that mind no octets after them

Octets after a message are its reader's only complaint of that kind: what reads the
fields of a message, and all that they are made of, fails for other reasons
(`Message.readFields_tolerant`).

- `Read.Tolerant`: reads that never fail for octets after their value, with a law for
  each way to put reads together.
-/

namespace SnmpManager

namespace Read

/-- The read does not fail for octets after what it reads, whatever else it may fail for. -/
def Tolerant {α : Type} (read : Read α) : Prop :=
  ∀ cursor e, (read.on cursor).1 = .error e → e.fault ≠ .trailingData

variable {α β : Type}

/-! ## Reads one after another -/

theorem tolerant_pure (a : α) : Tolerant (pure a) :=
  fun _ _ failed => nomatch failed

theorem tolerant_throw {e : DecodeError} (h : e.fault ≠ .trailingData) :
    Tolerant (throw e : Read α) := by
  rintro cursor _ ⟨⟩
  exact h

theorem tolerant_fail {fault : DecodeFault} (h : fault ≠ .trailingData) :
    Tolerant (fail fault : Read α) := by
  rintro cursor _ ⟨⟩
  exact h

theorem tolerant_modify (f : Cursor → Cursor) : Tolerant (modify f) :=
  fun _ _ failed => nomatch failed

theorem tolerant_set (cursor : Cursor) : Tolerant (set cursor) :=
  fun _ _ failed => nomatch failed

/-- Reads that are put together from `Tolerant` ones are `Tolerant`. -/
theorem Tolerant.bind {first : Read α} {second : α → Read β} (h : Tolerant first)
    (h' : ∀ a, Tolerant (second a)) : Tolerant (first >>= second) := by
  intro cursor e failed
  rw [on_bind] at failed
  split at failed
  case h_1 a between yielded => exact h' a between e failed
  case h_2 broke =>
    cases failed
    exact h cursor e (congrArg Prod.fst broke)

theorem tolerant_get_bind {read : Cursor → Read α} (h : ∀ cursor, Tolerant (read cursor)) :
    Tolerant (do read (← get)) := by
  intro cursor e failed
  rw [on_bind, on_get] at failed
  exact h cursor cursor e failed

/-- A fault inside other octets is the fault of the read outside. -/
theorem tolerant_within {read : Read α} (h : Tolerant read) (inner : Cursor) :
    Tolerant (within inner read) := by
  unfold Read.within
  split
  case h_1 e after broke => exact tolerant_throw (h inner e (congrArg Prod.fst broke))
  case h_2 a after yielded => exact tolerant_pure a

/-! ## Headers and octets -/

theorem tolerant_tag : Tolerant tag := by
  unfold Read.tag
  refine tolerant_get_bind fun cursor => ?_
  split
  case h_1 => exact tolerant_fail nofun
  case h_2 => exact (tolerant_modify _).bind fun _ => tolerant_pure _

theorem tolerant_bytes (n : Nat) : Tolerant (bytes n) := by
  unfold Read.bytes
  refine tolerant_get_bind fun cursor => ?_
  dsimp only
  split
  case isTrue => exact tolerant_fail nofun
  case isFalse => exact (tolerant_modify _).bind fun _ => tolerant_pure _

end Read

/-- A length has faults of its own, and octets after it are none. -/
theorem Length.fault_of_read {data : Octets} {fault : DecodeFault}
    (h : read data = .error fault) : fault ≠ .trailingData := by
  cases data with
  | nil =>
    cases h
    exact nofun
  | cons first rest =>
    unfold read at h
    dsimp only at h
    split_ifs at h <;> cases h <;> exact nofun

namespace Read

theorem tolerant_length : Tolerant length := by
  unfold Read.length
  refine tolerant_get_bind fun cursor => ?_
  split
  case h_1 fault refused => exact tolerant_fail (Length.fault_of_read refused)
  case h_2 => exact (tolerant_modify _).bind fun _ => tolerant_pure _

theorem tolerant_expect (t : UInt8) : Tolerant (expect t) := by
  unfold Read.expect
  refine tolerant_get_bind fun before => tolerant_tag.bind fun actual => ?_
  split
  case isTrue => exact tolerant_length
  case isFalse => exact (tolerant_set before).bind fun _ => tolerant_fail nofun

theorem tolerant_constructed (t : UInt8) : Tolerant (constructed t) :=
  (tolerant_expect t).bind fun n => (tolerant_bytes n).bind fun _ => tolerant_pure _

/-! ## Contents -/

theorem tolerant_integerContent (n : Nat) : Tolerant (integerContent n) := by
  unfold Read.integerContent
  split
  case isTrue => exact tolerant_fail nofun
  case isFalse =>
    split
    case isTrue => exact tolerant_fail nofun
    case isFalse => exact (tolerant_bytes n).bind fun _ => tolerant_pure _

theorem tolerant_unsignedContent (n bits : Nat) : Tolerant (unsignedContent n bits) := by
  unfold Read.unsignedContent
  split
  case isTrue => exact tolerant_fail nofun
  case isFalse =>
    refine (tolerant_bytes n).bind fun content => ?_
    dsimp only
    split
    case isTrue => exact tolerant_fail nofun
    case isFalse => exact tolerant_pure _

end Read

namespace Oid

/-- A sub-identifier is cut short or too large; what comes after it is for the next one. -/
theorem fault_of_readSubidentifier {value offset : Nat} {content : Octets} {e : DecodeError}
    (h : readSubidentifier value offset content = .error e) : e.fault ≠ .trailingData := by
  induction content generalizing value offset with
  | nil =>
    cases h
    exact nofun
  | cons b rest ih =>
    unfold readSubidentifier at h
    dsimp only at h
    split_ifs at h
    · cases h
      intro same
      cases same
    · exact ih h

/-- By induction on the fuel: `readArcs` has the faults of a sub-identifier only, and that of too
many arcs. -/
theorem fault_of_readArcs {count offset fuel : Nat} {content : Octets} {e : DecodeError}
    (h : readArcs count offset fuel content = .error e) : e.fault ≠ .trailingData := by
  induction fuel generalizing count offset content with
  | zero => cases content <;> cases h
  | succ fuel ih =>
    -- the round ends the path, or has a fault of its own, or leaves it to the next round
    cases content with
    | nil => cases h
    | cons b rest =>
      unfold readArcs at h
      split at h
      case h_1 e' first =>
        cases h
        exact fault_of_readSubidentifier first
      case h_2 =>
        split at h
        case isTrue =>
          cases h
          exact nofun
        case isFalse =>
          split at h
          case h_1 e' others =>
            cases h
            exact ih others
          case h_2 => cases h

/-- Octets without a sub-identifier are cut short, and in others `readArcs` goes on to the end. -/
theorem fault_of_ofOctets {content : Octets} {e : DecodeError}
    (h : ofOctets content = .error e) : e.fault ≠ .trailingData := by
  unfold ofOctets at h
  split at h
  case isTrue =>
    cases h
    exact nofun
  case isFalse =>
    split at h
    case h_1 e' first =>
      cases h
      exact fault_of_readSubidentifier first
    case h_2 =>
      split at h
      case h_1 e' others =>
        cases h
        exact fault_of_readArcs others
      case h_2 => cases h

end Oid

namespace Read

theorem tolerant_oidContent (n : Nat) : Tolerant (oidContent n) := by
  unfold Read.oidContent
  refine tolerant_get_bind fun cursor => (tolerant_bytes n).bind fun content => ?_
  split
  case h_1 e refused => exact tolerant_throw (Oid.fault_of_ofOctets (e := e) refused)
  case h_2 => exact tolerant_pure _

/-! ## Values under a tag that is due -/

theorem tolerant_integer : Tolerant integer := by
  have wide : Tolerant integer64 := (tolerant_expect _).bind tolerant_integerContent
  refine wide.bind fun n => ?_
  split
  case isTrue => exact tolerant_pure _
  case isFalse => exact tolerant_fail nofun

theorem tolerant_octetString : Tolerant octetString :=
  (tolerant_expect _).bind tolerant_bytes

theorem tolerant_objectIdentifier : Tolerant objectIdentifier :=
  (tolerant_expect _).bind tolerant_oidContent

end Read

/-! ## Messages -/

namespace Value

theorem tolerant_readUnsigned32 (n : Nat) : Read.Tolerant (readUnsigned32 n) :=
  (Read.tolerant_unsignedContent n 32).bind fun _ => Read.tolerant_pure _

theorem tolerant_readBlank (n : Nat) (value : Value) : Read.Tolerant (readBlank n value) :=
  (Read.tolerant_bytes n).bind fun _ => Read.tolerant_pure value

theorem tolerant_readIpAddress (n : Nat) : Read.Tolerant (readIpAddress n) := by
  unfold readIpAddress
  split
  case isTrue => exact Read.tolerant_fail nofun
  case isFalse =>
    refine (Read.tolerant_bytes 4).bind fun content => ?_
    split
    case h_1 => exact Read.tolerant_pure _
    case h_2 => exact Read.tolerant_fail nofun

/-- Each kind of content fails for its own octets only. -/
theorem tolerant_readContent (n : Nat) (kind : Tag.ValueKind) :
    Read.Tolerant (readContent n kind) := by
  cases kind with
  | integer => exact (Read.tolerant_integerContent n).bind fun _ => Read.tolerant_pure _
  | octetString | opaqueData => exact (Read.tolerant_bytes n).bind fun _ => Read.tolerant_pure _
  | objectIdentifier => exact (Read.tolerant_oidContent n).bind fun _ => Read.tolerant_pure _
  | ipAddress => exact tolerant_readIpAddress n
  | counter32 | gauge32 | timeTicks =>
    exact (tolerant_readUnsigned32 n).bind fun _ => Read.tolerant_pure _
  | counter64 => exact (Read.tolerant_unsignedContent n 64).bind fun _ => Read.tolerant_pure _
  | null | noSuchObject | noSuchInstance | endOfMibView => exact tolerant_readBlank n _

theorem read_tolerant : Read.Tolerant read := by
  unfold Value.read
  refine Read.tolerant_tag.bind fun tag => Read.tolerant_length.bind fun n => ?_
  split
  case h_1 kind _ => exact tolerant_readContent n kind
  case h_2 => exact (Read.tolerant_bytes n).bind fun _ => Read.tolerant_pure _

end Value

theorem VarBind.read_tolerant : Read.Tolerant VarBind.read := by
  refine (Read.tolerant_constructed _).bind fun inner => Read.tolerant_within ?_ inner
  exact Read.tolerant_objectIdentifier.bind fun oid =>
    Value.read_tolerant.bind fun value => Read.tolerant_pure _

namespace VarBindList

/-- A list goes on to the end of its octets, so no octets come after it. -/
theorem readAll_tolerant (fuel : Nat) : Read.Tolerant (readAll fuel) := by
  induction fuel with
  | zero => exact Read.tolerant_pure []
  | succ fuel ih =>
    rw [readAll]
    refine Read.tolerant_get_bind fun cursor => ?_
    split
    case isTrue => exact Read.tolerant_pure []
    case isFalse =>
      exact VarBind.read_tolerant.bind fun binding => ih.bind fun more => Read.tolerant_pure _

theorem read_tolerant : Read.Tolerant read :=
  (Read.tolerant_constructed _).bind fun inner =>
    Read.tolerant_within (readAll_tolerant inner.remaining) inner

end VarBindList

namespace Pdu

theorem readFields_tolerant (kind : PduKind) : Read.Tolerant (readFields kind) := by
  refine Read.tolerant_integer.bind fun requestId => ?_
  refine Read.tolerant_integer.bind fun errorStatus => ?_
  refine Read.tolerant_integer.bind fun errorIndex => ?_
  exact VarBindList.read_tolerant.bind fun bindings => Read.tolerant_pure _

theorem read_tolerant : Read.Tolerant read := by
  unfold Pdu.read
  refine Read.tolerant_get_bind fun cursor => Read.tolerant_tag.bind fun tag => ?_
  split
  case h_1 => exact Read.tolerant_throw nofun
  case h_2 kind _ =>
    refine Read.tolerant_length.bind fun n => (Read.tolerant_bytes n).bind fun content => ?_
    exact Read.tolerant_within (readFields_tolerant kind) _

end Pdu

/-- What reads the fields of a message does not mind octets after them, so only `decode` complains
of those. -/
theorem Message.readFields_tolerant : Read.Tolerant readFields := by
  unfold Message.readFields
  refine Read.tolerant_get_bind fun cursor => Read.tolerant_integer.bind fun number => ?_
  split
  case h_1 => exact Read.tolerant_throw nofun
  case h_2 version _ =>
    refine Read.tolerant_octetString.bind fun community => ?_
    exact Pdu.read_tolerant.bind fun pdu => Read.tolerant_pure _

end SnmpManager
