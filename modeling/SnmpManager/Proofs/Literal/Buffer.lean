import SnmpManager.Literal.OctetBuffer

/-!
# What a buffer holds

A buffer is its octets, with zeros beyond its end. Below the cap, a change at an index is one to
these: it makes the buffer long enough for the index, and leaves the other octets as they are.

- `OctetBuffer.octet`: the octet at an index.
- `OctetBuffer.exists_modify_iff`: an octet can be changed exactly below the cap.
- `OctetBuffer.size_of_modify`, `OctetBuffer.octet_of_modify`: what a change leaves.
- `OctetBuffer.push_of_lt`: an octet goes to the end.
- `OctetBuffer.Edit`: an octet appended, written or or-ed, as data, with what it does to the one
  octet it is about. What a run of edits leaves at an index is what its own edits make of a zero
  there (`octet_run`); whatever the run was, the buffer is `Sound` (`run_sound`).
-/

namespace SnmpManager.OctetBuffer

/-- The octet at an index; beyond the end it is zero. -/
def octet (buffer : OctetBuffer) (index : Nat) : UInt8 :=
  buffer.bytes.getD index 0

theorem getD_octets (buffer : OctetBuffer) (index : Nat) :
    buffer.octets.getD index 0 = buffer.octet index := by
  rw [octets, octet, List.getD_eq_getElem?_getD, Array.getD_eq_getD_getElem?,
    Array.getElem?_toList]

theorem length_octets (buffer : OctetBuffer) : buffer.octets.length = buffer.size :=
  Array.length_toList

variable {buffer changed : OctetBuffer} {index : Nat} {f : UInt8 → UInt8}

/-- An index that `ensure` makes valid has a zero until it is changed. -/
theorem octet_of_ensure (h : buffer.ensure index = .ok changed) (i : Nat) :
    changed.octet i = buffer.octet i := by
  unfold ensure at h
  split at h
  case isTrue => cases h
  case isFalse =>
    cases h
    simp only [octet, Array.getD_eq_getD_getElem?, Array.getElem?_append, Array.getElem?_replicate]
    split
    case isTrue => rfl
    case isFalse beyond =>
      rw [Array.getElem?_eq_none (Nat.not_lt.mp beyond)]
      split <;> rfl

/-! ## Changes -/

theorem modify_eq_ok_iff : buffer.modify index f = .ok changed ↔
    ∃ grown, buffer.ensure index = .ok grown ∧ ⟨grown.bytes.modify index f⟩ = changed := by
  rw [modify]
  cases buffer.ensure index <;> simp

theorem modify_eq_error_iff {fault : LiteralFault} :
    buffer.modify index f = .error fault ↔ fault = .outOfRange ∧ maxSize ≤ index := by
  rw [← ensure_eq_error_iff, modify]
  cases buffer.ensure index <;> simp

/-- `modify` succeeds exactly at an index below the cap. -/
theorem exists_modify_iff : (∃ changed, buffer.modify index f = .ok changed) ↔ index < maxSize := by
  constructor
  · rintro ⟨changed, h⟩
    refine Nat.not_le.mp fun beyond => ?_
    rw [modify_eq_error_iff.mpr ⟨rfl, beyond⟩] at h
    cases h
  · intro small
    cases h : buffer.modify index f with
    | ok changed => exact ⟨changed, rfl⟩
    | error fault => exact absurd (modify_eq_error_iff.mp h).2 (Nat.not_le.mpr small)

/-- A buffer grows to the index that is changed, and no further. -/
theorem size_of_modify (h : buffer.modify index f = .ok changed) :
    changed.size = max buffer.size (index + 1) := by
  obtain ⟨grown, room, rfl⟩ := modify_eq_ok_iff.mp h
  rw [size, Array.size_modify]
  exact size_of_ensure room

/-- `modify` changes one `octet` only, also where the buffer had to grow for it. -/
theorem octet_of_modify (h : buffer.modify index f = .ok changed) (i : Nat) :
    changed.octet i = if i = index then f (buffer.octet i) else buffer.octet i := by
  obtain ⟨grown, room, rfl⟩ := modify_eq_ok_iff.mp h
  have valid : index < grown.bytes.size := by
    have grew : grown.bytes.size = max buffer.size (index + 1) := size_of_ensure room
    omega
  rw [← octet_of_ensure room, octet, octet, Array.getD_eq_getD_getElem?,
    Array.getD_eq_getD_getElem?, Array.getElem?_modify]
  by_cases here : i = index
  case pos =>
    subst here
    rw [if_pos rfl, if_pos rfl, Array.getElem?_eq_getElem valid]
    rfl
  case neg => rw [if_neg (Ne.symm here), if_neg here]

/-- Where there is room, `push` puts an octet at the end. -/
theorem push_of_lt (room : buffer.size < maxSize) (octet : UInt8) :
    buffer.push octet = .ok ⟨buffer.bytes.push octet⟩ := by
  have grown : buffer.ensure buffer.size = .ok ⟨buffer.bytes.push 0⟩ := by
    rw [ensure, if_neg (Nat.not_le.mpr room), size, Nat.add_sub_cancel_left]
    rfl
  have last : (buffer.bytes.push 0).modify buffer.size (fun _ => octet)
      = buffer.bytes.push octet := by
    rw [size]
    grind
  rw [push, modify, grown]
  dsimp only
  rw [last]

/-- A full buffer takes no more octets. -/
theorem push_of_full (full : maxSize ≤ buffer.size) (octet : UInt8) :
    buffer.push octet = .error .outOfRange :=
  modify_eq_error_iff.mpr ⟨rfl, full⟩

/-! ## Edits in any order -/

/-- One change to a buffer. -/
inductive Edit where
  /-- An octet goes to the end. -/
  | push (octet : UInt8)
  /-- An octet is written at an index. -/
  | write (index : Nat) (octet : UInt8)
  /-- A mask is or-ed into the octet at an index. -/
  | or (index : Nat) (mask : UInt8)
  deriving DecidableEq, Repr

namespace Edit

/-- Try an edit. -/
def perform (buffer : OctetBuffer) : Edit → Except LiteralFault OctetBuffer
  | push octet => buffer.push octet
  | write index octet => buffer.modify index fun _ => octet
  | or index mask => buffer.modify index (· ||| mask)

/-- The buffer after an edit was tried; one that is refused leaves it as it was. -/
def after (buffer : OctetBuffer) (edit : Edit) : OctetBuffer :=
  match edit.perform buffer with
  | .error _ => buffer
  | .ok changed => changed

/-- The index an edit is about, in a buffer of `size` octets. -/
def place (size : Nat) : Edit → Nat
  | push _ => size
  | write index _ => index
  | or index _ => index

/-- What an edit makes of the octet it is about. -/
def effect : Edit → UInt8 → UInt8
  | push octet, _ => octet
  | write _ octet, _ => octet
  | or _ mask, octet => octet ||| mask

variable {edit : Edit} {fault : LiteralFault}

/-- Each of the three edits is a `modify`, a `push` one at the end. -/
theorem perform_eq (buffer : OctetBuffer) (edit : Edit) :
    edit.perform buffer = buffer.modify (edit.place buffer.size) edit.effect := by
  cases edit <;> rfl

/-- An edit is refused exactly where its `place` is not below the cap. -/
theorem perform_eq_error_iff : edit.perform buffer = .error fault ↔
    fault = .outOfRange ∧ maxSize ≤ edit.place buffer.size := by
  rw [perform_eq]
  exact modify_eq_error_iff

theorem exists_perform_iff :
    (∃ changed, edit.perform buffer = .ok changed) ↔ edit.place buffer.size < maxSize := by
  simp only [perform_eq]
  exact exists_modify_iff

theorem after_of_error (h : edit.perform buffer = .error fault) : edit.after buffer = buffer := by
  rw [after, h]

theorem after_of_ok (h : edit.perform buffer = .ok changed) : edit.after buffer = changed := by
  rw [after, h]

theorem size_of_perform (h : edit.perform buffer = .ok changed) :
    changed.size = max buffer.size (edit.place buffer.size + 1) :=
  size_of_modify (perform_eq buffer edit ▸ h)

theorem octet_of_perform (h : edit.perform buffer = .ok changed) (i : Nat) :
    changed.octet i =
      if i = edit.place buffer.size then edit.effect (buffer.octet i) else buffer.octet i :=
  octet_of_modify (perform_eq buffer edit ▸ h) i

/-- The step lemma for the cap: the `place` of an edit lies below it, or the edit is refused. -/
theorem size_after_le (edit : Edit) (within : buffer.size ≤ maxSize) :
    (edit.after buffer).size ≤ maxSize := by
  cases h : edit.perform buffer with
  | error fault => rwa [after_of_error h]
  | ok changed =>
    have below : edit.place buffer.size < maxSize := exists_perform_iff.mp ⟨changed, h⟩
    rw [after_of_ok h, size_of_perform h]
    omega

end Edit

/-- The buffer after edits were tried one after the other. -/
def run (buffer : OctetBuffer) (edits : List Edit) : OctetBuffer :=
  edits.foldl Edit.after buffer

/-- The edits that succeed when they are tried one after the other, each with the index it is
about. -/
def successes (buffer : OctetBuffer) : List Edit → List (Nat × Edit)
  | [] => []
  | edit :: edits =>
    match edit.perform buffer with
    | .error _ => successes buffer edits
    | .ok changed => (edit.place buffer.size, edit) :: successes changed edits

/-- What the edits about `index` make of an octet, in order. -/
def combined (index : Nat) (edits : List (Nat × Edit)) (octet : UInt8) : UInt8 :=
  (edits.filter (·.1 = index)).foldl (fun octet edit => edit.2.effect octet) octet

theorem combined_cons (index place : Nat) (edit : Edit) (edits : List (Nat × Edit))
    (octet : UInt8) :
    combined index ((place, edit) :: edits) octet =
      combined index edits (if index = place then edit.effect octet else octet) := by
  rw [combined, combined, List.filter_cons]
  by_cases here : index = place
  case pos => simp [here]
  case neg => simp [here, Ne.symm here]

theorem size_empty_le : empty.size ≤ maxSize := Nat.zero_le maxSize

/-- The cap along a run, by `size_after_le` at each edit. -/
theorem size_run_le (edits : List Edit) (within : buffer.size ≤ maxSize) :
    (buffer.run edits).size ≤ maxSize := by
  induction edits generalizing buffer with
  | nil => exact within
  | cons edit edits ih => exact ih (edit.size_after_le within)

/-- What edits leave at an index is what those of its `successes` that are about it make of the
octet there. -/
theorem octet_run (buffer : OctetBuffer) (edits : List Edit) (i : Nat) :
    (buffer.run edits).octet i = combined i (buffer.successes edits) (buffer.octet i) := by
  induction edits generalizing buffer with
  | nil => rfl
  | cons edit edits ih =>
    have step : buffer.run (edit :: edits) = (edit.after buffer).run edits := rfl
    cases h : edit.perform buffer with
    | error fault => rw [step, Edit.after_of_error h, ih, successes, h]
    | ok changed =>
      rw [step, Edit.after_of_ok h, ih, Edit.octet_of_perform h, successes, h, combined_cons]

/-- What is true of a buffer that began empty, once `edits` were tried on it: it is within the cap,
it refuses exactly what does not fit and then stays as it is, it grows no further than it must, and
it holds what the edits that succeeded make of zeros. -/
structure Sound (edits : List Edit) (buffer : OctetBuffer) : Prop where
  size_le : buffer.size ≤ 65535
  ensure_refused (index : Nat) (fault : LiteralFault) :
    buffer.ensure index = .error fault ↔ fault = .outOfRange ∧ 65535 ≤ index
  ensure_taken (index : Nat) (grown : OctetBuffer) : buffer.ensure index = .ok grown →
    grown.size = max buffer.size (index + 1) ∧ ∀ i, grown.octet i = buffer.octet i
  push_refused (octet : UInt8) (fault : LiteralFault) :
    buffer.push octet = .error fault ↔ fault = .outOfRange ∧ buffer.size = 65535
  refused (edit : Edit) (fault : LiteralFault) :
    edit.perform buffer = .error fault ↔ fault = .outOfRange ∧ 65535 ≤ edit.place buffer.size
  unchanged (edit : Edit) (fault : LiteralFault) :
    edit.perform buffer = .error fault → edit.after buffer = buffer
  taken (edit : Edit) (changed : OctetBuffer) : edit.perform buffer = .ok changed →
    edit.after buffer = changed ∧ changed.size = max buffer.size (edit.place buffer.size + 1)
  octet_eq (i : Nat) : buffer.octet i = combined i (successes empty edits) 0

/-- Whatever edits are tried on an empty buffer, and in whatever order, it is `Sound`: a growing
array of zeros with a cap, into which exactly those that succeed are written. -/
theorem run_sound (edits : List Edit) : Sound edits (empty.run edits) where
  size_le := size_run_le edits size_empty_le
  ensure_refused index fault := ensure_eq_error_iff
  ensure_taken index grown room := ⟨size_of_ensure room, octet_of_ensure room⟩
  push_refused octet fault := by
    have within : (empty.run edits).size ≤ maxSize := size_run_le edits size_empty_le
    rw [push, modify_eq_error_iff]
    exact and_congr_right fun _ => ⟨Nat.le_antisymm within, fun full => Nat.le_of_eq full.symm⟩
  refused edit fault := Edit.perform_eq_error_iff
  unchanged edit fault := Edit.after_of_error
  taken edit changed h := ⟨Edit.after_of_ok h, Edit.size_of_perform h⟩
  octet_eq := octet_run empty edits

/-- One octet too far on is refused and leaves nothing behind; one octet less far, and the buffer
is full. -/
theorem run_sound_at_the_cap :
    (empty.run [.write 3 0xFF, .or 1 0x01, .write 65535 9, .push 7, .or 4 0x80]).octets
        = [0x00, 0x01, 0x00, 0xFF, 0x87] ∧
      combined 4
        (empty.successes [.write 3 0xFF, .or 1 0x01, .write 65535 9, .push 7, .or 4 0x80]) 0
        = 0x87 ∧
      (empty.run [.write 65534 1]).push 7 = .error .outOfRange := by
  refine ⟨by decide +kernel, ?_, ?_⟩
  · rw [← (run_sound _).octet_eq 4]
    decide +kernel
  · obtain ⟨changed, taken⟩ : ∃ changed, (Edit.write 65534 1).perform empty = .ok changed :=
      Edit.exists_perform_iff.mpr (by decide)
    obtain ⟨left, size⟩ := (run_sound []).taken (.write 65534 1) changed taken
    have full : (empty.run [.write 65534 1]).size = 65535 := by
      change ((Edit.write 65534 1).after empty).size = 65535
      rw [show (Edit.write 65534 1).after empty = changed from left, size]
      rfl
    exact ((run_sound [.write 65534 1]).push_refused 7 .outOfRange).mpr ⟨rfl, full⟩

end SnmpManager.OctetBuffer
