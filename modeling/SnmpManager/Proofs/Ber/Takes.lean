import SnmpManager.Ber.Buffer
import SnmpManager.Ber.Cursor
import SnmpManager.Proofs.Ber.Integer
import SnmpManager.Proofs.Ber.Length
import SnmpManager.Proofs.Oid.Wire

/-!
# Reads that take exactly what was written

`Read.Takes read data a` says that `read` takes `data` off the front of whatever
is ahead, yields `a`, and leaves the cursor right behind `data`. Such reads
follow one another (`Takes.bind`), so a codec is read back part by part, in the
order in which its parts go out.

`Octets.element` is the form of every value: tag, length and content.
-/

namespace SnmpManager

/-- A value as it goes out: its tag, the length of its content, its content. -/
def Octets.element (t : UInt8) (content : Octets) : Octets :=
  t :: (Length.octets content.length ++ content)

/-- The parts of an `element`, in the order in which they are read. -/
theorem Octets.element_eq (t : UInt8) (content : Octets) :
    element t content = [t] ++ (Length.octets content.length ++ content) := rfl

theorem Octets.element_append (t : UInt8) (content rest : Octets) :
    element t content ++ rest = t :: (Length.octets content.length ++ (content ++ rest)) := by
  rw [element, List.cons_append, List.append_assoc]

/-- The content of an `element` is shorter than the element, which is what recursion on nested
values needs. -/
theorem Octets.length_lt_element (t : UInt8) (content : Octets) :
    content.length < (element t content).length := by
  rw [element, List.length_cons, List.length_append]
  omega

/-- A header adds six octets at most: the tag, and `Length.octets` of at most five. -/
theorem Octets.length_element_le (t : UInt8) (content : Octets) :
    (element t content).length ≤ content.length + 6 := by
  have upper := Length.width_le content.length
  rw [element, List.length_cons, List.length_append, Length.length_octets]
  split <;> omega

namespace Read

/-- The read takes `data` off the front of what is ahead, whatever comes after it, and yields
`a`. -/
def Takes {α : Type} (read : Read α) (data : Octets) (a : α) : Prop :=
  ∀ offset rest, read.on ⟨offset, data ++ rest⟩ = (.ok a, ⟨offset + data.length, rest⟩)

variable {α β : Type}

/-! ## Reads one after another -/

theorem takes_pure (a : α) : Takes (pure a) [] a := fun _ _ => rfl

/-- Reads that follow one another take what was written one after another; this is how a codec is
read back part by part. -/
theorem Takes.bind {first : Read α} {second : α → Read β} {front back : Octets} {a : α} {b : β}
    (h₁ : Takes first front a) (h₂ : Takes (second a) back b) :
    Takes (first >>= second) (front ++ back) b := by
  intro offset rest
  rw [on_bind, List.append_assoc, h₁]
  simp only [h₂ (offset + front.length) rest, List.length_append, Nat.add_assoc]

/-- `Takes.bind` where the second read takes nothing. -/
theorem Takes.bind_nil {first : Read α} {data : Octets} {a : α} {b : β}
    (h₁ : Takes first data a) (second : α → Read β) (h₂ : Takes (second a) [] b) :
    Takes (first >>= second) data b := by
  have := h₁.bind h₂
  rwa [List.append_nil] at this

/-- `Takes.bind` where what follows is a function on what was read. -/
theorem Takes.map {read : Read α} {data : Octets} {a : α} (h : Takes read data a) (f : α → β) :
    Takes (do return f (← read)) data (f a) :=
  h.bind_nil (fun a => pure (f a)) (takes_pure (f a))

theorem on_get (cursor : Cursor) : (get : Read Cursor).on cursor = (.ok cursor, cursor) := rfl

/-- A read that looks where it is first, wherever that is. -/
theorem takes_get_bind {read : Cursor → Read α} {data : Octets} {a : α}
    (h : ∀ cursor, Takes (read cursor) data a) : Takes (do read (← get)) data a := by
  intro offset rest
  rw [on_bind, on_get]
  exact h _ offset rest

/-- A read that takes `data` and is given no more than `data` succeeds. -/
theorem Takes.of_eq {read : Read α} {data : Octets} {a : α} (h : Takes read data a) :
    read.of data = .ok a := by
  have := h 0 []
  rw [List.append_nil] at this
  rw [Read.of, Cursor.ofOctets, this]

/-- A read `within` other octets takes nothing of its own. -/
theorem takes_within {read : Read α} {data : Octets} {a : α} (h : read.of data = .ok a) :
    Takes (within (.ofOctets data) read) [] a := by
  intro offset rest
  rw [Read.of] at h
  rw [within]
  generalize read.on (.ofOctets data) = outcome at h ⊢
  obtain ⟨_, _⟩ := outcome
  subst h
  rfl

/-! ## Headers and octets -/

theorem takes_tag (t : UInt8) : Takes tag [t] t := fun _ _ => rfl

theorem takes_bytes (data : Octets) : Takes (bytes data.length) data data :=
  fun offset rest => bytes_on_append offset data rest

/-- Any of the forms a length may have is read as what it `Denotes`, up to `Length.max`. -/
theorem takes_length_of_denotes {header : Octets} {n : Nat} (h : Length.Denotes header n)
    (fits : n ≤ Length.max) : Takes length header n := by
  intro offset rest
  rw [length_on]
  simp only [h.read_append fits rest, Cursor.skip, List.drop_left]

/-- The shortest form, `Length.octets`, is one of those forms. -/
theorem takes_length {n : Nat} (h : n ≤ Length.max) : Takes length (Length.octets n) n :=
  takes_length_of_denotes (Length.denotes_octets (Length.lt_of_le_max h)) h

/-- A tag that is due is read with the length behind it, in whatever form that is. -/
theorem Takes.header {field : Octets} {n : Nat} (h : Takes length field n) (t : UInt8) :
    Takes (Read.expect t) (t :: field) n := by
  intro offset rest
  rw [List.cons_append, expect_on_cons, if_pos rfl, h (offset + 1) rest, List.length_cons,
    Nat.add_assoc, Nat.add_comm 1]

theorem takes_expect (t : UInt8) {n : Nat} (h : n ≤ Length.max) :
    Takes (expect t) (t :: Length.octets n) n :=
  (takes_length h).header t

/-- A value longer than `Length.max` is refused by its length; the cursor stays behind the tag. -/
theorem expect_long (t : UInt8) {n : Nat} (long : Length.max < n) (h : n < 2 ^ 32) (offset : Nat)
    (rest : Octets) :
    (expect t).on ⟨offset, t :: (Length.octets n ++ rest)⟩
      = (.error ⟨offset + 1, .lengthExceedsMax n Length.max⟩,
        ⟨offset + 1, Length.octets n ++ rest⟩) := by
  have refused := Length.read_octets_append h rest
  rw [if_pos long] at refused
  rw [expect_on_cons, if_pos rfl, length_on]
  simp only [refused]

/-- A value under the tag that is due is read by what reads its content. -/
theorem Takes.expect {read : Nat → Read α} {t : UInt8} {content : Octets} {a : α}
    (h : Takes (read content.length) content a) (short : content.length ≤ Length.max) :
    Takes (do read (← expect t)) (Octets.element t content) a :=
  (takes_expect t short).bind h

/-! ## Numbers -/

/-- The octets of a number are at most eight and extend its sign, so `Integer.ofOctets` gives it
back. -/
theorem takes_integerContent (n : Int64) :
    Takes (integerContent (Integer.octets n.toInt).length) (Integer.octets n.toInt) n := by
  have wide : Integer.Within 8 n.toInt := by
    have low := n.le_toInt
    have high := n.toInt_lt
    constructor <;> omega
  have some : (Integer.octets n.toInt).length ≠ 0 := by
    simpa using Integer.octets_ne_nil wide
  have few : ¬ (Integer.octets n.toInt).length > 8 :=
    Nat.not_lt.mpr (Integer.length_octets_le (Integer.within_int64 n) (by decide))
  -- neither too short nor too long, so the content is read and its sign extended
  rw [integerContent, if_neg some, if_neg few]
  have := (takes_bytes (Integer.octets n.toInt)).map fun content =>
    Int64.ofInt (Integer.ofOctets content)
  rwa [Integer.ofOctets_octets wide, Int64.ofInt_toInt] at this

/-- A number of 32 bits is sent as one of 64, and `integer` narrows it again without loss. -/
theorem takes_integer (n : Int32) :
    Takes integer (Octets.element Tag.integer (Integer.octets n.toInt64.toInt)) n := by
  have small : (Integer.octets n.toInt64.toInt).length ≤ Length.max :=
    Nat.le_trans (Integer.length_octets_le (Integer.within_int64 n.toInt64) (by decide)) (by decide)
  have wide : Takes integer64 (Octets.element Tag.integer (Integer.octets n.toInt64.toInt))
      n.toInt64 := (takes_integerContent n.toInt64).expect small
  -- the number is read with 64 bits, and none are lost on the way down to 32
  let narrowing (m : Int64) : Read Int32 :=
    if m.toInt32.toInt64 = m then pure m.toInt32 else fail .integerOverflow
  have narrow : Takes (narrowing n.toInt64) [] n := by
    rw [show narrowing n.toInt64 = pure n by simp only [narrowing, Int32.toInt32_toInt64, if_true]]
    exact takes_pure n
  exact wide.bind_nil narrowing narrow

/-- Zeros in front do not count against `bits`, so the octet that keeps a large number from being
read as negative does no harm. -/
theorem takes_unsignedContent {n : UInt64} (bits : Nat) (h : n.toNat < 256 ^ (bits / 8)) :
    Takes (unsignedContent (Integer.octets n.toNat).length bits) (Integer.octets n.toNat) n := by
  have wide := Integer.within_uint64 n
  have some : (Integer.octets n.toNat).length ≠ 0 := by
    simpa using Integer.octets_ne_nil wide
  have value := Integer.toNat_octets wide
  -- zeros in front do not count against the bits that are asked for
  have few : ¬ (Octets.dropZeros (Integer.octets n.toNat)).length * 8 > bits := by
    rw [← value] at h
    have := Octets.length_dropZeros_le h
    omega
  have counted : Takes (if (Octets.dropZeros (Integer.octets n.toNat)).length * 8 > bits
      then fail .integerOverflow
      else pure (UInt64.ofNat (Octets.toNat (Octets.dropZeros (Integer.octets n.toNat)))))
      [] n := by
    rw [if_neg few, Octets.toNat_dropZeros, value, UInt64.ofNat_toNat]
    exact takes_pure n
  rw [unsignedContent, if_neg some]
  exact (takes_bytes (Integer.octets n.toNat)).bind_nil _ counted

/-! ## Other values -/

theorem takes_octetString {content : Octets} (short : content.length ≤ Length.max) :
    Takes octetString (Octets.element Tag.octetString content) content :=
  (takes_bytes content).expect short

/-- Paths are decoded from the octets of `Oid.octets`, if they are `Encodable`. -/
theorem takes_oidContent {oid : Oid} (h : oid.Encodable) :
    Takes (oidContent oid.octets.length) oid.octets oid := by
  intro offset rest
  rw [oidContent, on_bind, on_get]
  simp only
  rw [on_bind, takes_bytes oid.octets offset rest]
  simp only [Oid.ofOctets_octets h]
  rfl

theorem takes_objectIdentifier {oid : Oid} (h : oid.Encodable)
    (short : oid.octets.length ≤ Length.max) :
    Takes objectIdentifier (Octets.element Tag.objectIdentifier oid.octets) oid :=
  (takes_oidContent h).expect short

theorem takes_constructed (t : UInt8) {content : Octets} (short : content.length ≤ Length.max) :
    Takes (constructed t) (Octets.element t content) (.ofOctets content) :=
  ((takes_bytes content).map Cursor.ofOctets).expect short

end Read

end SnmpManager
