import SnmpManager.Proofs.Ber.Takes

/-!
# Where reads leave the cursor

Reads are put together from a few steps, none of which looks behind the cursor or past
the end. So whatever they are told to read, and whether they yield anything or fail half
way, they leave the cursor some octets further on in the same octets.

- `Read.Plain`: reads that are put together that way, with one lemma for each reader.
- `Cursor.Within`: the place of a cursor in some octets.
- `Read.Plain.proceeds`: a plain read goes forward, and not past the end.
- `Read.Awaits`: reads that do not move before a tag that is not due.
-/

namespace SnmpManager

/-! ## Places -/

namespace Cursor

/-- The place of a cursor in `data`: not past the end, and what is ahead of it is what `data` has
from there on. -/
structure Within (cursor : Cursor) (data : Octets) : Prop where
  offset_le : cursor.offset ≤ data.length
  rest_eq : cursor.rest = data.drop cursor.offset

/-- A fresh cursor is `Within` the octets it is made of. -/
theorem within_ofOctets (data : Octets) : (ofOctets data).Within data :=
  ⟨Nat.zero_le _, rfl⟩

/-- What is behind a cursor and what is ahead of it are all of `data`. -/
theorem Within.remaining_eq {cursor : Cursor} {data : Octets} (h : cursor.Within data) :
    cursor.offset + cursor.remaining = data.length := by
  have start := h.offset_le
  rw [remaining, h.rest_eq, List.length_drop]
  omega

theorem skip_skip (cursor : Cursor) (m n : Nat) : (cursor.skip m).skip n = cursor.skip (m + n) := by
  rw [skip, skip, skip, List.drop_drop, Nat.add_assoc]

theorem remaining_skip (cursor : Cursor) (n : Nat) :
    (cursor.skip n).remaining = cursor.remaining - n := by
  rw [remaining, skip, List.length_drop, remaining]

/-- Skipping no more octets than are ahead keeps a cursor `Within` the same `data`. -/
theorem Within.skip {cursor : Cursor} {data : Octets} (h : cursor.Within data) {n : Nat}
    (ahead : n ≤ cursor.remaining) : (cursor.skip n).Within data := by
  refine ⟨?_, ?_⟩
  · have counted := h.remaining_eq
    show cursor.offset + n ≤ data.length
    omega
  · show cursor.rest.drop n = data.drop (cursor.offset + n)
    rw [h.rest_eq, List.drop_drop]

/-- The octets that come next are the stretch of `data` from where the cursor is to where they
end. -/
theorem Within.take_eq {cursor : Cursor} {data : Octets} (h : cursor.Within data) (n : Nat) :
    cursor.rest.take n = data.extract cursor.offset (cursor.offset + n) := by
  rw [h.rest_eq, List.extract_eq_take_drop, Nat.add_sub_cancel_left]

end Cursor

namespace Read

variable {α β : Type}

/-! ## Plain reads -/

/-- Reads put together from the readers that move the cursor, with `bind`. A `look` may ask where
the cursor is (`place`), but not what is ahead of it; what `within` reads inside other octets may be
anything. -/
inductive Plain : {α : Type} → Read α → Prop
  | pure {α : Type} (a : α) : Plain (Pure.pure a : Read α)
  | throw {α : Type} (e : DecodeError) : Plain (MonadExcept.throw e : Read α)
  | look {α : Type} {read : Cursor → Read α} (h : ∀ cursor, Plain (read cursor))
    (place : ∀ cursor cursor', cursor.offset = cursor'.offset → read cursor = read cursor') :
    Plain (do read (← get))
  | bind {α β : Type} {first : Read α} {second : α → Read β} (h : Plain first)
    (h' : ∀ a, Plain (second a)) : Plain (first >>= second)
  | tag : Plain tag
  | length : Plain length
  | bytes (n : Nat) : Plain (bytes n)
  | expect (t : UInt8) : Plain (expect t)
  | within {α : Type} (inner : Cursor) (read : Read α) : Plain (within inner read)

theorem plain_fail (fault : DecodeFault) : Plain (fail fault : Read α) :=
  .look (fun cursor => .throw ⟨cursor.offset, fault⟩) fun _ _ same => by rw [same]

/-- The content of a number is taken by one `bytes`, and what follows is arithmetic. -/
theorem plain_integerContent (n : Nat) : Plain (integerContent n) := by
  unfold Read.integerContent
  split
  case isTrue => exact plain_fail _
  case isFalse =>
    split
    case isTrue => exact plain_fail _
    case isFalse => exact (Plain.bytes n).bind fun _ => .pure _

theorem plain_integer64 : Plain integer64 :=
  (Plain.expect Tag.integer).bind plain_integerContent

theorem plain_integer : Plain integer := by
  refine plain_integer64.bind fun n => ?_
  split
  case isTrue => exact .pure _
  case isFalse => exact plain_fail _

/-- The checks of `unsignedContent` come before its `bytes` or after, and none of them moves. -/
theorem plain_unsignedContent (n bits : Nat) : Plain (unsignedContent n bits) := by
  unfold Read.unsignedContent
  split
  case isTrue => exact plain_fail _
  case isFalse =>
    refine (Plain.bytes n).bind fun content => ?_
    dsimp only
    split
    case isTrue => exact plain_fail _
    case isFalse => exact .pure _

theorem plain_octetString : Plain octetString :=
  (Plain.expect Tag.octetString).bind .bytes

theorem plain_null : Plain null := by
  refine (Plain.expect Tag.null).bind fun n => ?_
  split
  case isTrue => exact .pure _
  case isFalse => exact plain_fail _

/-- The arcs come out of the octets that one `bytes` took. -/
theorem plain_oidContent (n : Nat) : Plain (oidContent n) := by
  unfold Read.oidContent
  refine .look (fun cursor => (Plain.bytes n).bind fun content => ?_) fun _ _ same => ?_
  · split
    case h_1 => exact .throw _
    case h_2 => exact .pure _
  · simp only [same]

theorem plain_objectIdentifier : Plain objectIdentifier :=
  (Plain.expect Tag.objectIdentifier).bind plain_oidContent

theorem plain_constructed (t : UInt8) : Plain (constructed t) :=
  (Plain.expect t).bind fun n => (Plain.bytes n).bind fun _ => .pure _

/-! ## Going forward -/

/-- What `Plain` comes to: the read leaves the cursor some octets further on, if not where it was,
and not past the end, whether it yields or fails. -/
def Proceeds (read : Read α) : Prop :=
  ∀ cursor, ∃ n, n ≤ cursor.remaining ∧ (read.on cursor).2 = cursor.skip n

/-- The distances of two `Proceeds` reads add up; where the first fails, its own is all. -/
theorem Proceeds.bind {first : Read α} {second : α → Read β} (h : Proceeds first)
    (h' : ∀ a, Proceeds (second a)) : Proceeds (first >>= second) := by
  intro cursor
  obtain ⟨m, ahead, moved⟩ := h cursor
  rw [on_bind]
  split
  case h_1 a between yielded =>
    rw [yielded] at moved
    obtain ⟨n, further, moved'⟩ := h' a between
    dsimp only at moved
    rw [moved, Cursor.remaining_skip] at further
    exact ⟨m + n, by omega, by rw [moved', moved, Cursor.skip_skip]⟩
  case h_2 e between failed =>
    rw [failed] at moved
    exact ⟨m, ahead, moved⟩

theorem proceeds_length : Proceeds length := by
  intro cursor
  rw [length_on]
  split
  case h_1 => exact ⟨0, Nat.zero_le _, rfl⟩
  case h_2 n used field => exact ⟨used, (Length.bounds_of_read field).2.2.1, rfl⟩

theorem proceeds_bytes (n : Nat) : Proceeds (bytes n) := by
  intro cursor
  rw [bytes_on]
  split
  case isTrue => exact ⟨0, Nat.zero_le _, rfl⟩
  case isFalse enough => exact ⟨n, Nat.not_lt.mp enough, rfl⟩

/-- `expect` stays where it is before another tag, and else goes past the tag and as far as `length`
goes. -/
theorem proceeds_expect (t : UInt8) : Proceeds (expect t) := by
  rintro ⟨offset, rest⟩
  cases rest with
  | nil => exact ⟨0, Nat.zero_le _, rfl⟩
  | cons actual rest =>
    rw [expect_on_cons]
    split
    case isFalse => exact ⟨0, Nat.zero_le _, rfl⟩
    case isTrue =>
      obtain ⟨used, few, moved⟩ := proceeds_length ⟨offset + 1, rest⟩
      refine ⟨used + 1, Nat.succ_le_succ few, ?_⟩
      rw [moved, Cursor.skip, Cursor.skip, Nat.add_assoc, Nat.add_comm 1]
      rfl

/-- By induction on how the read is put together: wherever a `Plain` read stops, it has gone
forward. -/
theorem Plain.proceeds {read : Read α} (h : Plain read) : Proceeds read := by
  induction h with
  | pure | throw => exact fun cursor => ⟨0, Nat.zero_le _, rfl⟩
  | look _ _ ih => exact fun cursor => ih cursor cursor
  | bind _ _ ih ih' => exact ih.bind ih'
  | tag =>
    rintro ⟨offset, _ | ⟨t, rest⟩⟩
    · exact ⟨0, Nat.zero_le _, rfl⟩
    · exact ⟨1, Nat.le_add_left 1 _, rfl⟩
  | length => exact proceeds_length
  | bytes n => exact proceeds_bytes n
  | expect t => exact proceeds_expect t
  | within inner read =>
    intro cursor
    refine ⟨0, Nat.zero_le _, ?_⟩
    unfold Read.within
    split <;> rfl

/-- `Plain.proceeds` in terms of `Within`: the place a plain read leaves the cursor at. -/
theorem Plain.within_after {read : Read α} (h : Plain read) {cursor : Cursor} {data : Octets}
    (place : cursor.Within data) :
    (read.on cursor).2.Within data ∧ cursor.offset ≤ (read.on cursor).2.offset := by
  obtain ⟨n, ahead, moved⟩ := h.proceeds cursor
  rw [moved]
  exact ⟨place.skip ahead, Nat.le_add_right _ _⟩

/-! ## What lies between -/

variable {cursor after : Cursor} {data content : Octets}

/-- What `bytes` yields is the stretch of `data` between where the cursor was and where it is. -/
theorem eq_extract_of_bytes {n : Nat} (place : cursor.Within data)
    (yields : (bytes n).on cursor = (.ok content, after)) :
    content = data.extract cursor.offset after.offset ∧ after.offset = cursor.offset + n := by
  rw [bytes_on] at yields
  split at yields
  case isTrue => cases yields
  case isFalse =>
    cases yields
    exact ⟨place.take_eq n, rfl⟩

/-- What `octetString` yields is the stretch of `data` between its header and where the cursor
is. -/
theorem eq_extract_of_octetString (place : cursor.Within data)
    (yields : octetString.on cursor = (.ok content, after)) :
    ∃ n start, (expect Tag.octetString).on cursor = (.ok n, start) ∧
      content = data.extract start.offset after.offset ∧ after.offset = start.offset + n := by
  have header := (Plain.expect Tag.octetString).within_after place
  rw [octetString, on_bind] at yields
  split at yields
  case h_2 => cases yields
  case h_1 n start opened =>
    rw [opened] at header
    exact ⟨n, start, opened, eq_extract_of_bytes header.1 yields⟩

/-- The cursor that `constructed` yields is over the stretch of `data` between its header and where
the outer cursor is. -/
theorem eq_extract_of_constructed {t : UInt8} {inner : Cursor} (place : cursor.Within data)
    (yields : (constructed t).on cursor = (.ok inner, after)) :
    ∃ n start, (expect t).on cursor = (.ok n, start) ∧
      inner = .ofOctets (data.extract start.offset after.offset) ∧
      after.offset = start.offset + n := by
  have header := (Plain.expect t).within_after place
  rw [constructed, on_bind] at yields
  split at yields
  case h_2 => cases yields
  case h_1 n start opened =>
    rw [opened] at header
    rw [on_bind] at yields
    split at yields
    case h_2 => cases yields
    case h_1 content between read =>
      cases yields
      -- the header is where the content starts, so the content is the data between the two
      obtain ⟨same, ends⟩ := eq_extract_of_bytes header.1 read
      exact ⟨n, start, opened, congrArg Cursor.ofOctets same, ends⟩

/-! ## Tags that are due -/

/-- The read fails before any other tag than `t`, and before the end, and does not move there. -/
def Awaits (t : UInt8) (read : Read α) : Prop :=
  ∀ cursor, cursor.peek? ≠ some t → ∃ e, read.on cursor = (.error e, cursor)

theorem awaits_expect (t : UInt8) : Awaits t (expect t) := by
  rintro ⟨offset, rest⟩ other
  cases rest with
  | nil => exact ⟨_, expect_on_nil t offset⟩
  | cons actual rest =>
    have different : actual ≠ t := fun same => other (congrArg some same)
    rw [expect_on_cons, if_neg different]
    exact ⟨_, rfl⟩

/-- What waits for a tag first waits for it however it goes on. -/
theorem Awaits.bind {t : UInt8} {first : Read α} (h : Awaits t first) (second : α → Read β) :
    Awaits t (first >>= second) := by
  intro cursor other
  obtain ⟨e, failed⟩ := h cursor other
  rw [on_bind, failed]
  exact ⟨e, rfl⟩

/-- Before a tag that is not due, an `Awaits` read leaves the cursor as it was. -/
theorem Awaits.after_eq {t : UInt8} {read : Read α} (h : Awaits t read) {cursor : Cursor}
    (other : cursor.peek? ≠ some t) : (read.on cursor).2 = cursor := by
  obtain ⟨e, failed⟩ := h cursor other
  rw [failed]

end Read

end SnmpManager
