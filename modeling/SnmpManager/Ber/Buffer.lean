import SnmpManager.Ber.Integer
import SnmpManager.Ber.Length
import SnmpManager.Ber.Tag
import SnmpManager.Oid.Octets

/-!
# Writing backwards

An encoder that puts each piece in front of what it has written. Content is
written first, then its length, then its tag, so no length has to be known ahead
of time. What is written later therefore comes earlier in the output, and the
parts of a constructed value are written last to first.

- `Buffer` stores what has been written with the last octet of the output first, so
  that it grows at its end; `Buffer.octets` turns it round.
- `Buffer.constructed` measures what its content added and wraps exactly that,
  as `Buffer.octets_constructed` says.
-/

namespace SnmpManager

/-- What an encoder has written so far, the last octet of the output first. -/
structure Buffer where
  stored : Array UInt8
  deriving DecidableEq, Repr

namespace Buffer

/-- Nothing written. -/
def empty : Buffer := ⟨#[]⟩

/-- What has been written, in the order of the output. -/
def octets (buffer : Buffer) : Octets := buffer.stored.toList.reverse

/-- How many octets are written. -/
def size (buffer : Buffer) : Nat := buffer.stored.size

/-- Put octets in front, which are given in the order of the output. -/
def bytes (buffer : Buffer) (data : Octets) : Buffer :=
  ⟨buffer.stored ++ data.reverse⟩

/-- Put length octets in front. -/
def lengthField (buffer : Buffer) (n : Nat) : Buffer :=
  ⟨buffer.stored ++ Length.reversed n⟩

/-- Put a tag in front. -/
def tag (buffer : Buffer) (t : UInt8) : Buffer :=
  ⟨buffer.stored.push t⟩

/-- Put a primitive value in front. -/
def tagged (buffer : Buffer) (t : UInt8) (content : Octets) : Buffer :=
  ((buffer.bytes content).lengthField content.length).tag t

/-- Put a constructed value in front, with whatever `content` writes inside. -/
def constructed (buffer : Buffer) (t : UInt8) (content : Buffer → Buffer) : Buffer :=
  let inner := content buffer
  (inner.lengthField (inner.size - buffer.size)).tag t

/-- Put a SEQUENCE in front. -/
def sequence (buffer : Buffer) (content : Buffer → Buffer) : Buffer :=
  buffer.constructed Tag.sequence content

/-- Put an INTEGER in front. -/
def integer (buffer : Buffer) (n : Int64) : Buffer :=
  buffer.tagged Tag.integer (Integer.octets n.toInt)

/-- Put an unsigned number in front, under a tag of its own. -/
def unsigned (buffer : Buffer) (t : UInt8) (n : UInt64) : Buffer :=
  buffer.tagged t (Integer.octets n.toNat)

/-- Put an OCTET STRING in front. -/
def octetString (buffer : Buffer) (content : Octets) : Buffer :=
  buffer.tagged Tag.octetString content

/-- Put a value without content in front. -/
def blank (buffer : Buffer) (t : UInt8) : Buffer :=
  (buffer.lengthField 0).tag t

/-- Put an OBJECT IDENTIFIER in front. -/
def objectIdentifier (buffer : Buffer) (oid : Oid) : Buffer :=
  buffer.tagged Tag.objectIdentifier oid.octets

/-- Put an IpAddress in front. -/
def ipAddress (buffer : Buffer) (addr : Ipv4) : Buffer :=
  buffer.tagged Tag.ipAddress addr.octets

/-! ## What a write adds -/

@[simp] theorem octets_empty : empty.octets = [] := rfl

theorem size_eq (buffer : Buffer) : buffer.size = buffer.octets.length := by
  rw [size, octets, List.length_reverse, Array.length_toList]

@[simp] theorem octets_bytes (buffer : Buffer) (data : Octets) :
    (buffer.bytes data).octets = data ++ buffer.octets := by
  rw [octets, bytes, Array.toList_appendList, List.reverse_append, List.reverse_reverse, octets]

@[simp] theorem octets_lengthField (buffer : Buffer) (n : Nat) :
    (buffer.lengthField n).octets = Length.octets n ++ buffer.octets := by
  rw [octets, lengthField, Array.toList_appendList, List.reverse_append, Length.reverse_reversed,
    octets]

@[simp] theorem octets_tag (buffer : Buffer) (t : UInt8) :
    (buffer.tag t).octets = t :: buffer.octets := by
  rw [octets, tag, Array.toList_push, List.reverse_append, octets]
  rfl

/-- A primitive value goes out as tag, length and content. -/
@[simp] theorem octets_tagged (buffer : Buffer) (t : UInt8) (content : Octets) :
    (buffer.tagged t content).octets
      = t :: (Length.octets content.length ++ (content ++ buffer.octets)) := by
  rw [tagged, octets_tag, octets_lengthField, octets_bytes]

/-- The length of a constructed value counts what its content added, and nothing that was
written before it. -/
theorem octets_constructed (buffer : Buffer) (t : UInt8) {content : Buffer → Buffer}
    {inner : Octets} (adds : (content buffer).octets = inner ++ buffer.octets) :
    (buffer.constructed t content).octets
      = t :: (Length.octets inner.length ++ (inner ++ buffer.octets)) := by
  have counted : (content buffer).size - buffer.size = inner.length := by
    rw [size_eq, size_eq, adds, List.length_append, Nat.add_sub_cancel]
  rw [constructed, octets_tag, octets_lengthField, counted, adds]

end Buffer

end SnmpManager
