import SnmpManager.Ber.Integer
import SnmpManager.Ber.Length
import SnmpManager.Ber.Tag
import SnmpManager.Oid.Octets

/-!
# Reading forwards

A `Cursor` is a position in some octets: how many are behind it and what is
still ahead. A `Read` moves a cursor and yields a value, or fails with the offset
at which the fault shows; a failed read leaves the cursor where it stopped.

The content of a constructed value is read with a cursor of its own, which
counts its offsets from the start of that content.

- `Read.on` gives a read's outcome together with the cursor it leaves.
- `Read.on_bind`, `Read.length_on` and `Read.bytes_on` say how reads follow one another
  and when octets run short.
-/

namespace SnmpManager

/-- A position in some octets. -/
structure Cursor where
  offset : Nat
  rest : Octets
  deriving DecidableEq, Repr

/-- An action that moves a cursor. -/
abbrev Read := ExceptT DecodeError (StateM Cursor)

namespace Cursor

/-- The start of some octets. -/
def ofOctets (data : Octets) : Cursor := ⟨0, data⟩

/-- How many octets are ahead. -/
def remaining (cursor : Cursor) : Nat := cursor.rest.length

/-- Whether nothing is ahead. -/
def atEnd (cursor : Cursor) : Bool := cursor.rest.isEmpty

/-- The next octet, which stays ahead. -/
def peek? (cursor : Cursor) : Option UInt8 := cursor.rest.head?

/-- The position `n` octets further on. -/
def skip (cursor : Cursor) (n : Nat) : Cursor :=
  ⟨cursor.offset + n, cursor.rest.drop n⟩

end Cursor

namespace Read

/-- Run a read on a cursor: its outcome and where the cursor is afterwards. -/
def on {α : Type} (read : Read α) (cursor : Cursor) : Except DecodeError α × Cursor :=
  read.run.run cursor

/-- Run a read at the start of some octets. -/
def of {α : Type} (read : Read α) (data : Octets) : Except DecodeError α :=
  (read.on (.ofOctets data)).1

/-- Fail at the current offset. -/
def fail {α : Type} (fault : DecodeFault) : Read α := do
  throw ⟨(← get).offset, fault⟩

/-! ## What a read does

A read is known by its outcome and the cursor it leaves: these equations take a
read apart into its steps. -/

@[simp] theorem on_pure {α : Type} (a : α) (cursor : Cursor) :
    (pure a : Read α).on cursor = (.ok a, cursor) := rfl

@[simp] theorem on_throw {α : Type} (e : DecodeError) (cursor : Cursor) :
    (throw e : Read α).on cursor = (.error e, cursor) := rfl

@[simp] theorem on_fail {α : Type} (fault : DecodeFault) (cursor : Cursor) :
    (fail fault : Read α).on cursor = (.error ⟨cursor.offset, fault⟩, cursor) := rfl

/-- The second of two reads goes on where the first stopped, and not at all after a failure. -/
theorem on_bind {α β : Type} (first : Read α) (second : α → Read β) (cursor : Cursor) :
    (first >>= second).on cursor
      = match first.on cursor with
        | (.ok a, after) => (second a).on after
        | (.error e, after) => (.error e, after) := by
  change ExceptT.bindCont second (first.on cursor).1 (first.on cursor).2 = _
  rcases first.on cursor with ⟨_ | _, _⟩ <;> rfl

/-! ## Headers and octets -/

/-- The next octet as a tag. -/
def tag : Read UInt8 := do
  match (← get).rest with
  | [] => fail .truncatedData
  | t :: _ =>
    modify (·.skip 1)
    return t

/-- The length octets ahead. -/
def length : Read Nat := do
  match Length.read (← get).rest with
  | .error fault => fail fault
  | .ok (n, used) =>
    modify (·.skip used)
    return n

/-- The next `n` octets. -/
def bytes (n : Nat) : Read Octets := do
  let content := (← get).rest.take n
  if content.length < n then fail .truncatedData
  else
    modify (·.skip n)
    return content

/-- The content length of a value that must have the tag `expected`. After another tag the cursor
steps back. -/
def expect (expected : UInt8) : Read Nat := do
  let before ← get
  let actual ← tag
  if actual = expected then length
  else
    set before
    fail (.unexpectedTag expected actual)

@[simp] theorem tag_on_cons (offset : Nat) (t : UInt8) (rest : Octets) :
    tag.on ⟨offset, t :: rest⟩ = (.ok t, ⟨offset + 1, rest⟩) := rfl

theorem expect_on_nil (t : UInt8) (offset : Nat) :
    (expect t).on ⟨offset, []⟩ = (.error ⟨offset, .truncatedData⟩, ⟨offset, []⟩) := rfl

/-- The length is read after the tag that is due, and nothing happens before another one. -/
theorem expect_on_cons (t : UInt8) (offset : Nat) (actual : UInt8) (rest : Octets) :
    (expect t).on ⟨offset, actual :: rest⟩
      = if actual = t then length.on ⟨offset + 1, rest⟩
        else (.error ⟨offset, .unexpectedTag t actual⟩, ⟨offset, actual :: rest⟩) := by
  change (if actual = t then length
    else (do set (⟨offset, actual :: rest⟩ : Cursor); fail (.unexpectedTag t actual)
      : Read Nat)).on ⟨offset + 1, rest⟩ = _
  split <;> rfl

/-- Length octets are read whole, or the cursor stays in front of them. -/
theorem length_on (cursor : Cursor) :
    length.on cursor
      = match Length.read cursor.rest with
        | .error fault => (.error ⟨cursor.offset, fault⟩, cursor)
        | .ok (n, used) => (.ok n, cursor.skip used) := by
  change (match Length.read cursor.rest with
    | .error fault => fail fault
    | .ok (n, used) => (do modify (·.skip used); return n) : Read Nat).on cursor = _
  split <;> rfl

/-- Octets are read whole or not at all. -/
theorem bytes_on (n : Nat) (cursor : Cursor) :
    (bytes n).on cursor
      = if cursor.remaining < n then (.error ⟨cursor.offset, .truncatedData⟩, cursor)
        else (.ok (cursor.rest.take n), cursor.skip n) := by
  have short : (cursor.rest.take n).length < n ↔ cursor.remaining < n := by
    rw [List.length_take, Cursor.remaining]
    omega
  change (if (cursor.rest.take n).length < n then fail .truncatedData
    else (do modify (·.skip n); return cursor.rest.take n) : Read Octets).on cursor = _
  by_cases h : cursor.remaining < n
  · rw [if_pos (short.mpr h), if_pos h]
    rfl
  · rw [if_neg (fun lt => h (short.mp lt)), if_neg h]
    rfl

/-- Octets at the front of what is ahead are read, and the cursor stops right behind them. -/
theorem bytes_on_append (offset : Nat) (data rest : Octets) :
    (bytes data.length).on ⟨offset, data ++ rest⟩
      = (.ok data, ⟨offset + data.length, rest⟩) := by
  rw [bytes_on, if_neg (by simp [Cursor.remaining])]
  simp [Cursor.skip]

/-! ## Numbers -/

/-- Signed content of `n` octets. -/
def integerContent (n : Nat) : Read Int64 := do
  if n = 0 then fail .zeroLengthInteger
  else if n > 8 then fail .integerOverflow
  else return Int64.ofInt (Integer.ofOctets (← bytes n))

/-- An INTEGER of up to 64 bits. -/
def integer64 : Read Int64 := do
  integerContent (← expect Tag.integer)

/-- An INTEGER that fits 32 bits. -/
def integer : Read Int32 := do
  let n ← integer64
  if n.toInt32.toInt64 = n then return n.toInt32 else fail .integerOverflow

/-- Unsigned content of `n` octets, of which those after the leading zeros may
have at most `bits` bits. -/
def unsignedContent (n bits : Nat) : Read UInt64 := do
  if n = 0 then fail .zeroLengthInteger
  else
    let significant := (← bytes n).dropWhile (· == 0)
    if significant.length * 8 > bits then fail .integerOverflow
    else return UInt64.ofNat (Octets.toNat significant)

/-! ## Other values -/

/-- An OCTET STRING. -/
def octetString : Read Octets := do
  bytes (← expect Tag.octetString)

/-- A NULL, which must be empty. -/
def null : Read Unit := do
  if (← expect Tag.null) = 0 then return () else fail .invalidNull

/-- OBJECT IDENTIFIER content of `n` octets. -/
def oidContent (n : Nat) : Read Oid := do
  let start := (← get).offset
  match Oid.ofOctets (← bytes n) with
  | .error e => throw ⟨start + e.offset, e.fault⟩
  | .ok oid => return oid

/-- An OBJECT IDENTIFIER. -/
def objectIdentifier : Read Oid := do
  oidContent (← expect Tag.objectIdentifier)

/-- A cursor over the content of a constructed value with the given tag. -/
def constructed (t : UInt8) : Read Cursor := do
  return .ofOctets (← bytes (← expect t))

/-- A cursor over the content of a SEQUENCE. -/
def sequence : Read Cursor :=
  constructed Tag.sequence

/-- Read inside other octets: the cursor in hand does not move. -/
def within {α : Type} (inner : Cursor) (read : Read α) : Read α := do
  match read.on inner with
  | (.error e, _) => throw e
  | (.ok a, _) => return a

end Read

end SnmpManager
