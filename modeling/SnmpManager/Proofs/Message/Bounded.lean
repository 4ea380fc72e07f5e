import SnmpManager.Proofs.Message.Decoded
import SnmpManager.Proofs.Message.Reads
import SnmpManager.Proofs.Oid.OnWire

/-!
# How much a list of bindings holds

The reader of a list goes on as long as there are octets left. It comes to an end all the
same, since each binding takes seven octets at least: two for its own header, three for its
object, whose content is never empty, and two for the header of its value. What a value
keeps of its content comes on top of these, so that a list never holds more octets than it
came in.

- `Value.kept`: how many octets a value keeps.
- `VarBind.read_keeps`: a binding takes these and seven more.
- `VarBindList.Passes`, `VarBindList.Ends`: bindings read one after another, with no bound on
  their number, and how the reader of a list ends.
- `VarBindList.Bounded`: what a list is held to by the size of its content.
- `VarBindList.read_bounded`: every list.
-/

namespace SnmpManager

/-! ## Octets that are kept -/

namespace Value

/-- How many octets of its content a value keeps as they came. -/
def kept : Value → Nat
  | .octetString content | .opaqueData content | .unknown _ content => content.length
  | _ => 0

/-- Only strings, opaque and unknown values keep their content, and `readContent` takes all of it
for them. -/
theorem readContent_keeps (n : Nat) (kind : Tag.ValueKind) :
    Read.Uses (readContent n kind) fun value used => value.kept ≤ used := by
  cases kind with
  | octetString | opaqueData =>
    refine (Read.uses_bytes n).bind fun content used ⟨counted, sized⟩ => Read.uses_pure ?_
    show content.length ≤ used + 0
    omega
  -- the other kinds keep nothing, whatever they take
  | integer =>
    exact (Read.uses_integerContent n).bind fun _ _ _ => Read.uses_pure (Nat.zero_le _)
  | objectIdentifier =>
    exact (Read.uses_oidContent n).bind fun _ _ _ => Read.uses_pure (Nat.zero_le _)
  | ipAddress =>
    show Read.Uses (readIpAddress n) _
    unfold readIpAddress
    split
    case isTrue => exact Read.uses_fail _ _
    case isFalse =>
      refine (Read.uses_bytes 4).bind fun content used _ => ?_
      split
      case h_1 => exact Read.uses_pure (Nat.zero_le _)
      case h_2 => exact Read.uses_fail _ _
  | counter32 | gauge32 | timeTicks =>
    exact (uses_readUnsigned32 n).bind fun _ _ _ => Read.uses_pure (Nat.zero_le _)
  | counter64 =>
    exact (Read.uses_unsignedContent n 64).bind fun _ _ _ => Read.uses_pure (Nat.zero_le _)
  | null | noSuchObject | noSuchInstance | endOfMibView =>
    exact (Read.uses_bytes n).bind fun _ _ _ => Read.uses_pure (Nat.zero_le _)

/-- A value takes its header besides what is `kept`. -/
theorem read_keeps : Read.Uses read fun value used => 2 + value.kept ≤ used := by
  unfold Value.read
  refine Read.uses_tag.bind fun tag one counted => ?_
  refine Read.uses_length.bind fun n field ⟨nonempty, _⟩ => ?_
  split
  case h_1 kind _ =>
    refine (readContent_keeps n kind).mono fun value used fits => ?_
    omega
  case h_2 =>
    refine (Read.uses_bytes n).bind fun data used ⟨counted', sized⟩ => Read.uses_pure ?_
    show 2 + data.length ≤ _
    omega

end Value

namespace VarBind

/-- The fewest octets that a binding takes. -/
def leastSize : Nat := 7

/-- A binding takes its headers and its object besides what its value keeps: `leastSize` and
more. -/
theorem read_keeps :
    Read.Uses read fun binding used => leastSize + binding.value.kept ≤ used := by
  unfold VarBind.read
  have fields : Read.Uses (do
      let oid ← Read.objectIdentifier
      let value ← Value.read
      return (⟨oid, value⟩ : VarBind)) fun binding used => 5 + binding.value.kept ≤ used := by
    refine Read.uses_objectIdentifier.bind fun oid front ⟨encodable, again⟩ => ?_
    refine Value.read_keeps.bind fun value back fits => Read.uses_pure ?_
    have some := List.length_pos_iff.mpr (Oid.octets_ne_nil encodable)
    show 5 + value.kept ≤ _
    omega
  refine (Read.uses_constructed Tag.sequence).bind fun inner used ⟨counted, _⟩ => ?_
  refine (Read.uses_within fields inner).mono ?_
  rintro binding _ ⟨rfl, inside, among, fits⟩
  rw [leastSize]
  omega

end VarBind

/-! ## One binding after another -/

namespace VarBindList

/-- Bindings that are read one after another, each where octets are left; the last cursor is where
the next one would be read. -/
inductive Passes : Cursor → List VarBind → Cursor → Prop where
  | nil (cursor : Cursor) : Passes cursor [] cursor
  | cons {cursor between last : Cursor} {binding : VarBind} {bindings : List VarBind}
    (more : cursor.atEnd = false) (yields : VarBind.read.on cursor = (.ok binding, between))
    (rest : Passes between bindings last) : Passes cursor (binding :: bindings) last

/-- How the reader of a list ends: no octets are left, or what comes next is refused as a binding,
and with it the whole list. -/
inductive Ends (cursor : Cursor) : Except DecodeError (List VarBind) × Cursor → Prop where
  | exhausted {bindings : List VarBind} {last : Cursor} (passed : Passes cursor bindings last)
    (ended : last.atEnd = true) : Ends cursor (.ok bindings, last)
  | refused {bindings : List VarBind} {last after : Cursor} {e : DecodeError}
    (passed : Passes cursor bindings last) (more : last.atEnd = false)
    (fails : VarBind.read.on last = (.error e, after)) : Ends cursor (.error e, after)

/-- What bindings are held to by the number of octets they came in. -/
structure Bounded (size : Nat) (bindings : List VarBind) : Prop where
  count : 7 * bindings.length ≤ size
  arcs : ∀ binding ∈ bindings,
    binding.oid.length ≤ 128 ∧ ∀ oid, binding.value = .objectIdentifier oid → oid.length ≤ 128
  kept : (bindings.map fun binding => binding.value.kept).sum ≤ size - 7 * bindings.length

variable {cursor between last after : Cursor} {binding : VarBind} {bindings : List VarBind}

/-! ## What the bindings on the way are held to -/

/-- By induction on what `Passes`: what is left ahead, and what the bindings take at least, were
ahead at the start. -/
theorem Passes.remaining_le (h : Passes cursor bindings last) :
    7 * bindings.length + (bindings.map fun binding => binding.value.kept).sum + last.remaining
      ≤ cursor.remaining := by
  induction h with
  | nil cursor => exact Nat.le_of_eq (Nat.zero_add _)
  | @cons cursor between last binding bindings _ yields _ ih =>
    obtain ⟨used, counted, fits⟩ := VarBind.read_keeps cursor binding between yields
    rw [VarBind.leastSize] at fits
    rw [List.length_cons, List.map_cons, List.sum_cons]
    omega

/-- Every binding that was passed was read, and what is read is `Encodable`. -/
theorem Passes.encodable (h : Passes cursor bindings last) :
    ∀ binding ∈ bindings, binding.Encodable := by
  induction h with
  | nil => exact List.forall_mem_nil _
  | cons _ yields _ ih =>
    obtain ⟨_, -, encodable, -⟩ := VarBind.read_uses _ _ _ yields
    exact List.forall_mem_cons.mpr ⟨encodable, ih⟩

/-- `Passes.remaining_le` and `Passes.encodable` make what was passed `Bounded`. -/
theorem Passes.bounded (h : Passes cursor bindings last) :
    Bounded cursor.remaining bindings where
  count := by
    have fits := h.remaining_le
    omega
  arcs binding mem := by
    have encodable := h.encodable binding mem
    refine ⟨(Oid.writable_of_encodable encodable.oid).short, fun oid points => ?_⟩
    have value := encodable.value
    rw [points] at value
    exact (Oid.writable_of_encodable value).short
  kept := by
    have fits := h.remaining_le
    omega

/-! ## The end of the list -/

/-- A binding more does not change how the reader `Ends`. -/
theorem Ends.again {outcome : Except DecodeError (List VarBind)} (more : cursor.atEnd = false)
    (yields : VarBind.read.on cursor = (.ok binding, between)) (h : Ends between (outcome, last)) :
    Ends cursor (outcome.map (binding :: ·), last) := by
  cases h with
  | exhausted passed ended => exact .exhausted (passed.cons more yields) ended
  | refused passed more' fails => exact .refused (passed.cons more yields) more' fails

/-- By induction on the fuel: each round takes an octet at least, so that `remaining` rounds are
enough, and the reader `Ends` as it should. -/
theorem ends_readAll {fuel : Nat} (enough : cursor.remaining ≤ fuel) :
    Ends cursor ((readAll fuel).on cursor) := by
  -- each round leaves fewer octets than the fuel that is left
  induction fuel generalizing cursor with
  | zero =>
    have ended : cursor.atEnd = true :=
      List.isEmpty_iff.mpr (List.length_eq_zero_iff.mp (Nat.le_zero.mp enough))
    rw [readAll_of_atEnd ended]
    exact .exhausted (.nil cursor) ended
  | succ fuel ih =>
    cases more : cursor.atEnd with
    | true =>
      rw [readAll_of_atEnd more]
      exact .exhausted (.nil cursor) more
    | false =>
      rw [readAll_of_more more, Read.on_bind]
      split
      case h_2 e after fails => exact .refused (.nil cursor) more fails
      case h_1 binding between yields =>
        -- the binding took some octets, so one round less is enough for the others
        obtain ⟨used, counted, fits⟩ := VarBind.read_keeps cursor binding between yields
        rw [VarBind.leastSize] at fits
        have others := ih (show between.remaining ≤ fuel by omega)
        rw [Read.on_bind]
        generalize (readAll fuel).on between = run at others ⊢
        obtain ⟨outcome, last⟩ := run
        have all := others.again more yields
        cases outcome with
        | ok bindings => exact all
        | error e => exact all

/-- What comes after the header of a list is what `readAll` makes of the content. -/
theorem read_of_sequence {content : Cursor}
    (opened : Read.sequence.on cursor = (.ok content, after)) :
    read.on cursor = (((readAll content.remaining).on content).1, after) := by
  rw [read, Read.on_bind, opened]
  dsimp only
  rw [Read.within]
  cases (readAll content.remaining).on content with
  | mk outcome last => cases outcome <;> rfl

/-- Every list of bindings ends, and holds no more than there is room for. Each binding that is read
takes seven octets at least, so what `Passes` in any octets is `Bounded` by their number. A list
without a header is none; in one with a header the reader goes on to the end of its content, or to
the first binding that is refused, and so is the list then. -/
theorem read_bounded :
    (∀ cursor binding after, VarBind.read.on cursor = (.ok binding, after) →
      cursor.offset + 7 ≤ after.offset) ∧
    (∀ cursor bindings last, Passes cursor bindings last → Bounded cursor.remaining bindings) ∧
    ∀ cursor,
      (∀ e after, Read.sequence.on cursor = (.error e, after) →
        read.on cursor = (.error e, after)) ∧
      ∀ content after, Read.sequence.on cursor = (.ok content, after) →
        ∃ outcome last, read.on cursor = (outcome, after) ∧ Ends content (outcome, last) ∧
          ∀ bindings, outcome = .ok bindings → Bounded content.remaining bindings := by
  refine ⟨?_, fun cursor bindings last passed => passed.bounded, fun cursor => ⟨?_, ?_⟩⟩
  · intro cursor binding after yields
    -- what was used is counted by what is left ahead, and a plain read moves by as much
    obtain ⟨used, counted, fits⟩ := VarBind.read_keeps cursor binding after yields
    obtain ⟨n, ahead, moved⟩ := VarBind.plain_read.proceeds cursor
    rw [yields] at moved
    obtain rfl : after = cursor.skip n := moved
    rw [Cursor.remaining_skip] at counted
    rw [VarBind.leastSize] at fits
    show cursor.offset + 7 ≤ cursor.offset + n
    omega
  · intro e after failed
    rw [read, Read.on_bind, failed]
  · intro content after opened
    have ends := ends_readAll (Nat.le_refl content.remaining)
    rw [read_of_sequence opened]
    generalize (readAll content.remaining).on content = run at ends ⊢
    obtain ⟨outcome, last⟩ := run
    refine ⟨outcome, last, rfl, ends, ?_⟩
    rintro bindings rfl
    cases ends with
    | exhausted passed ended => exact passed.bounded

/-- A list in which every octet is needed, and the same without the last one. -/
theorem read_bounded_tight :
    let content : Octets := [0x30, 0x05, 0x06, 0x01, 0x00, 0x05, 0x00,
      0x30, 0x08, 0x06, 0x01, 0x2B, 0x04, 0x03, 0x61, 0x62, 0x63]
    let bindings : List VarBind := [⟨⟨[0, 0]⟩, .null⟩, ⟨⟨[1, 3]⟩, .octetString [0x61, 0x62, 0x63]⟩]
    read.on (.ofOctets (0x30 :: 0x11 :: content)) = (.ok bindings, ⟨19, []⟩) ∧
      Bounded 17 bindings ∧
      VarBind.read.on (.ofOctets content) = (.ok ⟨⟨[0, 0]⟩, .null⟩, ⟨7, content.drop 7⟩) ∧
      0 + 7 ≤ 7 ∧
      read.on (.ofOctets (0x30 :: 0x10 :: content))
        = (.error ⟨9, .truncatedData⟩, ⟨18, [0x63]⟩) ∧
      ∃ last, Ends (.ofOctets (content.take 16)) (.error ⟨9, .truncatedData⟩, last) := by
  intro content bindings
  obtain ⟨advances, -, ends⟩ := read_bounded
  have first : VarBind.read.on (.ofOctets content)
      = (.ok ⟨⟨[0, 0]⟩, .null⟩, ⟨7, content.drop 7⟩) := by decide +kernel
  have whole : read.on (.ofOctets (0x30 :: 0x11 :: content)) = (.ok bindings, ⟨19, []⟩) := by
    decide +kernel
  obtain ⟨outcome, last, read, -, bounded⟩ := (ends (.ofOctets (0x30 :: 0x11 :: content))).2
    (.ofOctets content) ⟨19, []⟩ (by decide +kernel)
  obtain ⟨rfl, -⟩ := Prod.mk.inj (read.symm.trans whole)
  have short : VarBindList.read.on (.ofOctets (0x30 :: 0x10 :: content))
      = (.error ⟨9, .truncatedData⟩, ⟨18, [0x63]⟩) := by decide +kernel
  obtain ⟨outcome, last', read', refused, -⟩ := (ends (.ofOctets (0x30 :: 0x10 :: content))).2
    (.ofOctets (content.take 16)) ⟨18, [0x63]⟩ (by decide +kernel)
  obtain ⟨rfl, -⟩ := Prod.mk.inj (read'.symm.trans short)
  exact ⟨whole, bounded bindings rfl, first, advances _ _ _ first, short, last', refused⟩

end VarBindList

end SnmpManager
