import SnmpManager.Message

/-!
# Messages in a stream

On a stream each message is one SEQUENCE, and its own length says where it ends.

- `Stream.readMessage` takes one message off the front of the octets that a
  stream delivers, and says what is left.

A length that no transport takes is refused before the content is looked at. A
stream that ends inside a message has ended early; nothing of it is left then.
-/

namespace SnmpManager.Stream

/-- Why there is no message at the front of a stream. -/
inductive Fault where
  | decode (error : DecodeError)
  | tooLarge (size max : Nat)
  /-- The stream ends inside the message. -/
  | ended
  deriving DecidableEq, Repr

/-- The error of a stream from the given peer. -/
def Fault.error (peer : SocketAddress) : Fault → Error
  | .decode e => .decode e
  | .tooLarge size max => .messageTooLarge size max
  | .ended => .io (some peer) .earlyEnd

/-- The next `n` octets, if the stream has that many. -/
def take? (n : Nat) (stream : Octets) : Option (Octets × Octets) :=
  let front := stream.take n
  if front.length < n then none else some (front, stream.drop n)

/-- The content after a header of a message, which goes in front of it. -/
def readContent (header : Octets) (length : Nat) (stream : Octets) :
    Except Fault Octets × Octets :=
  if length > maxMessageSize then (.error (.tooLarge length maxMessageSize), stream)
  else match take? length stream with
    | none => (.error .ended, [])
    | some (content, rest) => (.ok (header ++ content), rest)

/-- One message off the front of a stream, and what is left of the stream. -/
def readMessage (stream : Octets) : Except Fault Octets × Octets :=
  match stream with
  | tag :: first :: rest =>
    if tag ≠ Tag.sequence then (.error (.decode ⟨0, .unexpectedTag Tag.sequence tag⟩), rest)
    else if first < 0x80 then readContent [tag, first] first.toNat rest
    else if first = 0x80 then (.error (.decode ⟨1, .indefiniteLength⟩), rest)
    else
      let count := first.toNat - 128
      if count > 4 then (.error (.decode ⟨1, .lengthTooLong count⟩), rest)
      else match take? count rest with
        | none => (.error .ended, [])
        | some (field, rest) => readContent (tag :: first :: field) (Octets.toNat field) rest
  | _ => (.error .ended, [])

end SnmpManager.Stream
