import SnmpManager.Proofs.Ber.Uses
import SnmpManager.Proofs.Message.Reads

/-!
# Where an element ends

An element says itself how long it is, so what it is read as does not depend on what
comes after it. This holds for all plain reads, since none of their steps looks at more
of what is ahead than it takes, unless there is too little.

- `Read.SelfDelimiting`: octets after an element change neither what it is read as nor why
  it is refused, and those that it takes are enough to read it.
- `Read.Plain.continues`, `Read.Plain.suffices`: a run with more octets at the end, and the
  way back to the run without them.
- `Read.elements_selfDelimiting`: values and bindings.
-/

namespace SnmpManager

namespace Cursor

/-- The same place, with more octets at the end. -/
def followed (cursor : Cursor) (more : Octets) : Cursor :=
  ⟨cursor.offset, cursor.rest ++ more⟩

theorem remaining_followed (cursor : Cursor) (more : Octets) :
    (cursor.followed more).remaining = cursor.remaining + more.length :=
  List.length_append

theorem take_followed {cursor : Cursor} {n : Nat} (there : n ≤ cursor.remaining) (more : Octets) :
    (cursor.followed more).rest.take n = cursor.rest.take n :=
  List.take_append_of_le_length there

theorem skip_followed {cursor : Cursor} {n : Nat} (there : n ≤ cursor.remaining) (more : Octets) :
    (cursor.followed more).skip n = (cursor.skip n).followed more := by
  rw [skip, followed, List.drop_append_of_le_length there]
  rfl

/-- What was taken is in front of `more`, if the octets of `more` are all still ahead. -/
theorem le_remaining_of_skip {cursor : Cursor} {more : Octets} {n : Nat}
    (there : n ≤ (cursor.followed more).remaining)
    (left : more.length ≤ ((cursor.followed more).skip n).remaining) : n ≤ cursor.remaining := by
  rw [remaining_skip, remaining_followed] at left
  rw [remaining_followed] at there
  omega

end Cursor

namespace Read

/-- What an element is read as, or why it is refused, has nothing to do with the octets after it;
only where octets run short may more of them help. What is read depends on the octets that it takes
alone. -/
structure SelfDelimiting {α : Type} (read : Read α) : Prop where
  yields : ∀ offset data a after, read.on ⟨offset, data⟩ = (.ok a, after) →
    ∀ more, read.on ⟨offset, data ++ more⟩ = (.ok a, ⟨after.offset, after.rest ++ more⟩)
  fails : ∀ offset data e after, read.on ⟨offset, data⟩ = (.error e, after) →
    e.fault ≠ .truncatedData →
    ∀ more, read.on ⟨offset, data ++ more⟩ = (.error e, ⟨after.offset, after.rest ++ more⟩)
  alone : ∀ offset data a after, read.on ⟨offset, data⟩ = (.ok a, after) →
    ∃ taken, data = taken ++ after.rest ∧ after.offset = offset + taken.length ∧
      ∀ other, read.on ⟨offset, taken ++ other⟩ = (.ok a, ⟨after.offset, other⟩)

variable {α β : Type}

/-! ## More octets at the end -/

/-- An outcome that more octets at the end cannot change: the read yielded something, or failed for
another reason than `truncatedData`. -/
def Settled (outcome : Except DecodeError α) : Prop :=
  ∀ e, outcome = .error e → e.fault ≠ .truncatedData

theorem settled_error_iff {e : DecodeError} :
    Settled (.error e : Except DecodeError α) ↔ e.fault ≠ .truncatedData := by
  constructor
  · intro settled
    exact settled e rfl
  · rintro whole _ ⟨⟩
    exact whole

/-- Where octets ran short, more of them might help, so the outcome is not `Settled`. -/
theorem not_settled (offset : Nat) : ¬ Settled (.error ⟨offset, .truncatedData⟩ : Except _ α) :=
  fun settled => settled_error_iff.mp settled rfl

/-- Unless octets run short, the read does the same with more of them at the end. -/
def Continues (read : Read α) : Prop :=
  ∀ cursor outcome after, read.on cursor = (outcome, after) → Settled outcome →
    ∀ more, read.on (cursor.followed more) = (outcome, after.followed more)

/-- The octets of a length are counted by its first one, and the others are there or run short. -/
theorem continues_length : Continues length := by
  intro cursor outcome after ran settled more
  -- more octets matter only where the length itself is cut short
  have same : Length.read cursor.rest ≠ .error .truncatedData →
      Length.read (cursor.followed more).rest = Length.read cursor.rest :=
    fun whole => Length.read_append whole more
  rw [length_on] at ran ⊢
  split at ran
  case h_1 fault refused =>
    cases ran
    have whole : Length.read cursor.rest ≠ .error .truncatedData := by
      rw [refused]
      simpa using settled_error_iff.mp settled
    rw [same whole, refused]
    rfl
  case h_2 n used field =>
    cases ran
    have whole : Length.read cursor.rest ≠ .error .truncatedData := by
      rw [field]
      exact nofun
    rw [same whole, field]
    dsimp only
    rw [Cursor.skip_followed (Length.bounds_of_read field).2.2.1]

theorem continues_bytes (n : Nat) : Continues (bytes n) := by
  intro cursor outcome after ran settled more
  rw [bytes_on] at ran ⊢
  split at ran
  case isTrue =>
    cases ran
    exact absurd settled (not_settled _)
  case isFalse enough =>
    cases ran
    have there : n ≤ cursor.remaining := Nat.not_lt.mp enough
    have enough' : ¬ (cursor.followed more).remaining < n := by
      rw [Cursor.remaining_followed]
      omega
    rw [if_neg enough', Cursor.take_followed there, Cursor.skip_followed there]

theorem continues_expect (t : UInt8) : Continues (expect t) := by
  rintro ⟨offset, rest⟩ outcome after ran settled more
  cases rest with
  | nil =>
    cases ran
    exact absurd settled (not_settled _)
  | cons actual rest =>
    rw [Cursor.followed, List.cons_append]
    rw [expect_on_cons] at ran ⊢
    split at ran
    case isTrue due =>
      rw [if_pos due]
      exact continues_length ⟨offset + 1, rest⟩ outcome after ran settled more
    case isFalse other =>
      cases ran
      rw [if_neg other]
      rfl

/-- By induction on how the read is put together. Where the first of two reads ends, the second goes
on with the same octets at the end, so both halves of a `bind` have to be `Continues`. -/
theorem Plain.continues {read : Read α} (h : Plain read) : Continues read := by
  induction h with
  | pure | throw =>
    intro cursor outcome after ran _ more
    cases ran
    rfl
  -- it sees where the cursor is, and that is the same place
  | look _ place ih =>
    intro cursor outcome after ran settled more
    have further := ih cursor cursor outcome after ran settled more
    rwa [place cursor (cursor.followed more) rfl] at further
  | bind _ _ ih ih' =>
    intro cursor outcome after ran settled more
    rw [on_bind] at ran ⊢
    split at ran
    case h_1 a between yielded =>
      rw [ih cursor (.ok a) between yielded nofun more]
      exact ih' a between outcome after ran settled more
    case h_2 e between failed =>
      cases ran
      have whole : e.fault ≠ .truncatedData := settled_error_iff.mp settled
      rw [ih cursor (.error e) after failed (settled_error_iff.mpr whole) more]
  | tag =>
    rintro ⟨offset, _ | ⟨t, rest⟩⟩ outcome after ran settled more
    · cases ran
      exact absurd settled (not_settled _)
    · cases ran
      rfl
  | length => exact continues_length
  | bytes n => exact continues_bytes n
  | expect t => exact continues_expect t
  -- the inner octets are the same, and the outer ones are not touched
  | within inner read =>
    intro cursor outcome after ran _ more
    unfold Read.within at ran ⊢
    split at ran
    all_goals
      cases ran
      rfl

/-! ## Fewer octets at the end -/

/-- The converse of `Continues`: the read does the same without the octets at the end, if it leaves
them all ahead. -/
def Suffices (read : Read α) : Prop :=
  ∀ cursor more a after, read.on (cursor.followed more) = (.ok a, after) →
    more.length ≤ after.remaining →
    ∃ short, read.on cursor = (.ok a, short) ∧ after = short.followed more

theorem suffices_length : Suffices length := by
  intro cursor more n after yields left
  rw [length_on] at yields ⊢
  split at yields
  case h_1 => cases yields
  case h_2 m used field =>
    cases yields
    have there := Cursor.le_remaining_of_skip (Length.bounds_of_read field).2.2.1 left
    rw [Length.read_of_append field there]
    exact ⟨_, rfl, Cursor.skip_followed there more⟩

theorem suffices_bytes (n : Nat) : Suffices (bytes n) := by
  intro cursor more content after yields left
  rw [bytes_on] at yields ⊢
  split at yields
  case isTrue => cases yields
  case isFalse enough =>
    cases yields
    have there := Cursor.le_remaining_of_skip (Nat.not_lt.mp enough) left
    rw [if_neg (Nat.not_lt.mpr there), Cursor.take_followed there]
    exact ⟨_, rfl, Cursor.skip_followed there more⟩

theorem suffices_expect (t : UInt8) : Suffices (expect t) := by
  rintro ⟨offset, rest⟩ more n after yields left
  cases rest with
  | nil =>
    -- the tag would be one of the octets at the end
    obtain ⟨used, counted, some, -⟩ := uses_expect t ⟨offset, more⟩ n after yields
    change more.length = _ at counted
    omega
  | cons actual rest =>
    rw [Cursor.followed, List.cons_append, expect_on_cons] at yields
    rw [expect_on_cons]
    split at yields
    case isFalse => cases yields
    case isTrue due =>
      rw [if_pos due]
      exact suffices_length ⟨offset + 1, rest⟩ more n after yields left

/-- By induction on how the read is put together. A `Plain` read never goes back, so what the second
read leaves ahead the first one left as well. -/
theorem Plain.suffices {read : Read α} (h : Plain read) : Suffices read := by
  induction h with
  | pure a =>
    intro cursor more b after yields _
    cases yields
    exact ⟨cursor, rfl, rfl⟩
  | throw e =>
    intro cursor more b after yields _
    cases yields
  | @look _ read _ place ih =>
    intro cursor more a after yields left
    change (read (cursor.followed more)).on _ = _ at yields
    rw [place (cursor.followed more) cursor rfl] at yields
    exact ih cursor cursor more a after yields left
  | bind _ h' ih ih' =>
    intro cursor more b after yields left
    rw [on_bind] at yields ⊢
    split at yields
    case h_2 => cases yields
    case h_1 a between yielded =>
      -- the second read goes forward, so the first left at least as much ahead
      obtain ⟨n, ahead, moved⟩ := (h' a).proceeds between
      rw [yields] at moved
      have left' : more.length ≤ between.remaining := by
        rw [show after = between.skip n from moved, Cursor.remaining_skip] at left
        omega
      obtain ⟨short, first, rfl⟩ := ih cursor more a between yielded left'
      rw [first]
      exact ih' a short more b after yields left
  | tag =>
    rintro ⟨offset, _ | ⟨t, rest⟩⟩ more b after yields left
    · obtain ⟨used, counted, one⟩ := uses_tag ⟨offset, more⟩ b after yields
      change more.length = _ at counted
      omega
    · cases yields
      exact ⟨_, rfl, rfl⟩
  | length => exact suffices_length
  | bytes n => exact suffices_bytes n
  | expect t => exact suffices_expect t
  | within inner read =>
    intro cursor more a after yields _
    unfold Read.within at yields ⊢
    split at yields
    case h_1 => cases yields
    case h_2 a last yielded =>
      cases yields
      exact ⟨cursor, rfl, rfl⟩

/-! ## Elements -/

/-- A plain read takes what it is about from the front and looks at nothing else, by
`Plain.continues` and `Plain.suffices`. -/
theorem Plain.selfDelimiting {read : Read α} (h : Plain read) : SelfDelimiting read where
  yields offset data a after yields more :=
    h.continues ⟨offset, data⟩ (.ok a) after yields nofun more
  fails offset data e after fails whole more :=
    h.continues ⟨offset, data⟩ (.error e) after fails (settled_error_iff.mpr whole) more
  alone offset data a after yields := by
    obtain ⟨n, ahead, moved⟩ := h.proceeds ⟨offset, data⟩
    rw [yields] at moved
    obtain rfl : after = ⟨offset + n, data.drop n⟩ := moved
    have there : (data.take n).length = n := List.length_take_of_le ahead
    have parts : data.take n ++ data.drop n = data := List.take_append_drop n data
    refine ⟨data.take n, parts.symm, by rw [there], fun other => ?_⟩
    -- the run on the octets that were taken, alone
    obtain ⟨⟨place, rest⟩, only, left⟩ := h.suffices ⟨offset, data.take n⟩ (data.drop n) a
      ⟨offset + n, data.drop n⟩ (by rw [Cursor.followed, parts, yields]) (Nat.le_refl _)
    obtain ⟨rfl, none⟩ := Cursor.mk.inj left
    obtain rfl : rest = [] := List.self_eq_append_left.mp none
    exact h.continues ⟨offset, data.take n⟩ (.ok a) ⟨offset + n, []⟩ only nofun other

/-- Values and bindings are `SelfDelimiting`: they are read alike whatever comes after them, and
refused alike unless octets run short. -/
theorem elements_selfDelimiting : SelfDelimiting Value.read ∧ SelfDelimiting VarBind.read :=
  ⟨Value.plain_read.selfDelimiting, VarBind.plain_read.selfDelimiting⟩

/-- Octets that are no address, and an element in front of others; the same with octets after
them. -/
theorem elements_selfDelimiting_followed :
    let refused : Octets := [0x30, 0x07, 0x06, 0x01, 0x2B, 0x40, 0x02, 0x7F, 0x00]
    let element : Octets := [0x43, 0x02, 0x00, 0x07]
    VarBind.read.on ⟨0, refused⟩ = (.error ⟨5, .invalidIpAddressLength 2⟩, ⟨9, []⟩) ∧
      VarBind.read.on ⟨0, refused ++ [0x30]⟩
        = (.error ⟨5, .invalidIpAddressLength 2⟩, ⟨9, [0x30]⟩) ∧
      Value.read.on ⟨2, element⟩ = (.ok (.timeTicks 7), ⟨6, []⟩) ∧
      Value.read.on ⟨2, element ++ [0x05]⟩ = (.ok (.timeTicks 7), ⟨6, [0x05]⟩) := by
  intro refused element
  obtain ⟨values, bindings⟩ := elements_selfDelimiting
  have fails : VarBind.read.on ⟨0, refused⟩ = (.error ⟨5, .invalidIpAddressLength 2⟩, ⟨9, []⟩) := by
    decide +kernel
  have yields : Value.read.on ⟨2, element⟩ = (.ok (.timeTicks 7), ⟨6, []⟩) := by decide +kernel
  exact ⟨fails, bindings.fails 0 refused _ _ fails nofun [0x30], yields,
    values.yields 2 element _ _ yields [0x05]⟩

end Read

end SnmpManager
