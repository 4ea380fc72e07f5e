import SnmpManager.Proofs.Ber.Takes

/-!
# What a read yields, and from how many octets

`Read.Takes` is about octets that were written for some value. This is about octets
that come from anywhere: whatever a read yields, it took so many octets for it.

- `Read.Uses read post`: what `read` yields, and how many octets it used for that,
  are as `post` says. Nothing is said about reads that fail.
- `Uses.bind`, `uses_within`: the octets of one read after another add up, and those
  inside a constructed value are among its own.
-/

namespace SnmpManager

namespace Read

/-- Whatever the read yields, and the number of octets it used for it, are as `post` says. -/
def Uses {α : Type} (read : Read α) (post : α → Nat → Prop) : Prop :=
  ∀ cursor a after, read.on cursor = (.ok a, after) →
    ∃ used, cursor.remaining = used + after.remaining ∧ post a used

variable {α β : Type}

/-! ## Reads one after another -/

theorem uses_pure {a : α} {post : α → Nat → Prop} (h : post a 0) : Uses (pure a) post := by
  intro cursor _ _ yields
  rw [on_pure] at yields
  cases yields
  exact ⟨0, (Nat.zero_add _).symm, h⟩

/-- A read that fails is as any `post` says, since it yields nothing. -/
theorem uses_throw (e : DecodeError) (post : α → Nat → Prop) : Uses (throw e) post := by
  intro cursor a after yields
  rw [on_throw] at yields
  cases yields

theorem uses_fail (fault : DecodeFault) (post : α → Nat → Prop) : Uses (fail fault) post := by
  intro cursor a after yields
  rw [on_fail] at yields
  cases yields

theorem Uses.mono {read : Read α} {post post' : α → Nat → Prop} (h : Uses read post)
    (weaker : ∀ a used, post a used → post' a used) : Uses read post' := by
  intro cursor a after yields
  obtain ⟨used, counted, holds⟩ := h cursor a after yields
  exact ⟨used, counted, weaker a used holds⟩

/-- The octets of two reads add up, so `post'` is asked of the sum. -/
theorem Uses.bind {first : Read α} {second : α → Read β} {post : α → Nat → Prop}
    {post' : β → Nat → Prop} (h : Uses first post)
    (h' : ∀ a used, post a used → Uses (second a) fun b more => post' b (used + more)) :
    Uses (first >>= second) post' := by
  intro cursor b after yields
  rw [on_bind] at yields
  split at yields
  case h_1 a between yielded =>
    obtain ⟨used, counted, holds⟩ := h cursor a between yielded
    obtain ⟨more, rest, holds⟩ := h' a used holds between b after yields
    exact ⟨used + more, by omega, holds⟩
  case h_2 => cases yields

/-- A read that looks where it is first. -/
theorem uses_get_bind {read : Cursor → Read α} {post : α → Nat → Prop}
    (h : ∀ cursor, Uses (read cursor) post) : Uses (do read (← get)) post := by
  intro cursor a after yields
  rw [on_bind, on_get] at yields
  exact h cursor cursor a after yields

/-- What a read `within` other octets uses is among those, and none of the outer ones. -/
theorem uses_within {read : Read α} {post : α → Nat → Prop} (h : Uses read post)
    (inner : Cursor) :
    Uses (within inner read) fun a used =>
      used = 0 ∧ ∃ inside, inside ≤ inner.remaining ∧ post a inside := by
  intro cursor a after yields
  unfold Read.within at yields
  split at yields
  case h_1 =>
    rw [on_throw] at yields
    cases yields
  case h_2 b last inside =>
    rw [on_pure] at yields
    cases yields
    obtain ⟨used, counted, holds⟩ := h inner a last inside
    exact ⟨0, (Nat.zero_add _).symm, rfl, used, by omega, holds⟩

/-- `Uses` for a read of all of `data`: it used no more than there is. -/
theorem Uses.of_eq {read : Read α} {post : α → Nat → Prop} (h : Uses read post) {data : Octets}
    {a : α} (yields : read.of data = .ok a) : ∃ used, used ≤ data.length ∧ post a used := by
  obtain ⟨used, counted, holds⟩ := h (.ofOctets data) a (read.on (.ofOctets data)).2
    (Prod.ext yields rfl)
  change data.length = _ at counted
  exact ⟨used, by omega, holds⟩

/-! ## Headers and octets -/

theorem uses_tag : Uses tag fun _ used => used = 1 := by
  rintro ⟨offset, rest⟩ t after yields
  cases rest with
  | nil => cases yields
  | cons first rest =>
    rw [tag_on_cons] at yields
    cases yields
    exact ⟨1, Nat.add_comm .., rfl⟩

/-- The one reader that takes what it is told to: `n` octets, which it yields. -/
theorem uses_bytes (n : Nat) :
    Uses (bytes n) fun content used => used = n ∧ content.length = n := by
  intro cursor content after yields
  rw [bytes_on] at yields
  split at yields
  case isTrue => cases yields
  case isFalse enough =>
    cases yields
    rw [Cursor.remaining] at enough
    refine ⟨n, ?_, rfl, ?_⟩
    · rw [Cursor.remaining, Cursor.remaining, Cursor.skip, List.length_drop]
      omega
    · rw [List.length_take]
      omega

/-- A length field takes one to five octets, and what it says is at most `Length.max`. -/
theorem uses_length : Uses length fun n used => 1 ≤ used ∧ used ≤ 5 ∧ n ≤ Length.max := by
  intro cursor n after yields
  rw [length_on] at yields
  split at yields
  case h_1 => cases yields
  case h_2 m used field =>
    cases yields
    obtain ⟨some, few, there, fits⟩ := Length.bounds_of_read field
    refine ⟨used, ?_, some, few, fits⟩
    show cursor.rest.length = used + (cursor.rest.drop used).length
    rw [List.length_drop]
    omega

/-- A tag and a length take two to six octets. -/
theorem uses_expect (t : UInt8) :
    Uses (expect t) fun n used => 2 ≤ used ∧ used ≤ 6 ∧ n ≤ Length.max := by
  rintro ⟨offset, rest⟩ n after yields
  cases rest with
  | nil => cases yields
  | cons actual rest =>
    rw [expect_on_cons] at yields
    split at yields
    case isFalse => cases yields
    case isTrue =>
      obtain ⟨used, counted, some, few, fits⟩ := uses_length ⟨offset + 1, rest⟩ n after yields
      change rest.length = _ at counted
      refine ⟨used + 1, ?_, Nat.succ_le_succ some, Nat.succ_le_succ few, fits⟩
      rw [Cursor.remaining, List.length_cons]
      omega

/-- A constructed value takes its header and its content, which is what `inner` is over. -/
theorem uses_constructed (t : UInt8) :
    Uses (constructed t) fun inner used =>
      2 + inner.remaining ≤ used ∧ used ≤ 6 + inner.remaining ∧ inner.remaining ≤ Length.max := by
  refine (uses_expect t).bind fun n header ⟨enough, few, fits⟩ => ?_
  refine (uses_bytes n).bind fun content used ⟨counted, sized⟩ => uses_pure ?_
  show 2 + content.length ≤ _ ∧ _ ≤ 6 + content.length ∧ content.length ≤ _
  exact ⟨by omega, by omega, by omega⟩

/-! ## Contents -/

theorem uses_integerContent (n : Nat) : Uses (integerContent n) fun _ used => used = n := by
  unfold Read.integerContent
  split
  case isTrue => exact uses_fail _ _
  case isFalse =>
    split
    case isTrue => exact uses_fail _ _
    case isFalse => exact (uses_bytes n).bind fun content used counted => uses_pure counted.1

/-- However much padding is allowed, all `n` octets of content are used. -/
theorem uses_unsignedContent (n bits : Nat) :
    Uses (unsignedContent n bits) fun _ used => used = n := by
  unfold Read.unsignedContent
  split
  case isTrue => exact uses_fail _ _
  case isFalse =>
    refine (uses_bytes n).bind fun content used counted => ?_
    dsimp only
    split
    case isTrue => exact uses_fail _ _
    case isFalse => exact uses_pure counted.1

/-- The path that is read is `Encodable`, and not longer when it is written again. -/
theorem uses_oidContent (n : Nat) :
    Uses (oidContent n) fun oid used =>
      used = n ∧ oid.Encodable ∧ oid.octets.length ≤ n := by
  unfold Read.oidContent
  refine uses_get_bind fun cursor => (uses_bytes n).bind fun content used counted => ?_
  split
  case h_1 => exact uses_throw _ _
  case h_2 oid read =>
    have again := Oid.length_octets_of_ofOctets read
    rw [counted.2] at again
    exact uses_pure ⟨counted.1, Oid.encodable_of_ofOctets read, again⟩

/-! ## Values under a tag that is due -/

theorem uses_integer : Uses integer fun _ used => 2 ≤ used := by
  have wide : Uses integer64 fun _ used => 2 ≤ used := by
    refine (uses_expect Tag.integer).bind fun n header ⟨enough, _⟩ => ?_
    exact (uses_integerContent n).mono fun _ used _ => Nat.le_add_right_of_le enough
  refine wide.bind fun n used enough => ?_
  split
  case isTrue => exact uses_pure enough
  case isFalse => exact uses_fail _ _

theorem uses_octetString :
    Uses octetString fun content used => 2 + content.length ≤ used := by
  refine (uses_expect Tag.octetString).bind fun n header ⟨enough, _⟩ => ?_
  refine (uses_bytes n).mono fun content used ⟨counted, sized⟩ => ?_
  omega

/-- Header and content of a path: two octets at least on top of its own, so a message bounds the
paths it carries. -/
theorem uses_objectIdentifier :
    Uses objectIdentifier fun oid used =>
      oid.Encodable ∧ oid.octets.length + 2 ≤ used := by
  refine (uses_expect Tag.objectIdentifier).bind fun n header ⟨enough, _⟩ => ?_
  refine (uses_oidContent n).mono fun oid used ⟨counted, encodable, again⟩ => ?_
  exact ⟨encodable, by omega⟩

end Read

end SnmpManager
