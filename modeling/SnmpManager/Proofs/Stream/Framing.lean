import SnmpManager.Proofs.Message.Tolerant
import SnmpManager.Session.Stream

/-!
# Framing

A stream is divided into messages by the lengths they start with. The stream and the
reader of messages have each a reader of lengths, with limits of their own; they agree
on every message that a stream gives (`Stream.framing_agrees`).

- `Stream.Frame`: a SEQUENCE with a definite length, in whatever form (`Length.Denotes`),
  that a transport takes.
- `Stream.readMessage_frame`, `Stream.frame_of_readMessage`: what a stream gives are the
  frames at its front, and nothing else.
- `Stream.readMessages`: one message after another.
-/

namespace SnmpManager

namespace Stream

/-! ## Frames -/

/-- A message as it stands in a stream: a SEQUENCE whose length is definite, and not above what a
transport takes. -/
structure Frame where
  header : Octets
  content : Octets
  definite : Length.Denotes header content.length
  fits : content.length ≤ maxMessageSize

namespace Frame

/-- The octets of a frame. -/
def octets (frame : Frame) : Octets :=
  Tag.sequence :: (frame.header ++ frame.content)

theorem fits_max (frame : Frame) : frame.content.length ≤ Length.max :=
  Nat.le_trans frame.fits (by decide)

/-- The reader of messages takes a `Frame` whole, and goes on inside it. -/
theorem takes_sequence (frame : Frame) :
    Read.Takes Read.sequence frame.octets (.ofOctets frame.content) := by
  have field := Read.takes_length_of_denotes frame.definite frame.fits_max
  have content := (Read.takes_bytes frame.content).map Cursor.ofOctets
  exact (field.header Tag.sequence).bind content

/-- A `Frame` is decoded to what its content is read as: nothing is missing, and nothing is left. -/
theorem decode_octets (frame : Frame) :
    Message.decode frame.octets = Message.readFields.of frame.content := by
  have opened := frame.takes_sequence 0 []
  rw [List.append_nil] at opened
  show (Message.read.on ⟨0, frame.octets⟩).1 = _
  rw [Message.read, Read.on_bind, opened]
  show ((Read.within (.ofOctets frame.content) Message.readFields).on _).1 = _
  rw [Read.within, Read.of]
  cases Message.readFields.on (.ofOctets frame.content) with
  | mk outcome after => cases outcome <;> rfl

end Frame

theorem take?_append (front rest : Octets) :
    take? front.length (front ++ rest) = some (front, rest) := by
  rw [take?]
  simp

/-- Inversion of `take?`: what is taken is the front, and as long as was asked for. -/
theorem eq_append_of_take? {n : Nat} {stream front rest : Octets}
    (h : take? n stream = some (front, rest)) : stream = front ++ rest ∧ front.length = n := by
  rw [take?] at h
  split at h
  case isTrue => cases h
  case isFalse enough =>
    cases h
    refine ⟨(List.take_append_drop n stream).symm, ?_⟩
    rw [List.length_take] at enough ⊢
    omega

theorem readContent_append (header content rest : Octets) (fits : content.length ≤ maxMessageSize) :
    readContent header content.length (content ++ rest) = (.ok (header ++ content), rest) := by
  rw [readContent, if_neg (Nat.not_lt.mpr fits), take?_append]

/-- Inversion of `readContent`: the content is there, and no longer than a transport takes. -/
theorem eq_append_of_readContent {header stream message rest : Octets} {n : Nat}
    (h : readContent header n stream = (.ok message, rest)) :
    ∃ content, content.length = n ∧ n ≤ maxMessageSize ∧ stream = content ++ rest ∧
      message = header ++ content := by
  rw [readContent] at h
  split at h
  case isTrue => cases h
  case isFalse fits =>
    split at h
    case h_1 => cases h
    case h_2 content later taken =>
      cases h
      obtain ⟨whole, sized⟩ := eq_append_of_take? taken
      exact ⟨content, sized, Nat.not_lt.mp fits, whole, rfl⟩

/-- After a tag and octets that `Length.Denotes` a length, a stream is read on for the content that
they announce, whether it has that much or not. -/
theorem readMessage_denotes {header : Octets} {n : Nat} (definite : Length.Denotes header n)
    (stream : Octets) :
    readMessage (Tag.sequence :: (header ++ stream))
      = readContent (Tag.sequence :: header) n stream := by
  cases definite with
  | @short first low =>
    rw [List.singleton_append, readMessage, if_neg (not_not.mpr rfl), if_pos low]
  | @long field some few =>
    have count : 128 + field.length - 128 = field.length := by omega
    rw [List.cons_append, readMessage, if_neg (not_not.mpr rfl),
      if_neg (Length.count_not_low few), if_neg (Length.count_ne some few)]
    simp only [Length.toNat_count few, count, Nat.not_lt.mpr few, if_false, take?_append]

/-- A `Frame` at the front of a stream is read, and the stream goes on behind it. -/
theorem readMessage_frame (frame : Frame) (rest : Octets) :
    readMessage (frame.octets ++ rest) = (.ok frame.octets, rest) := by
  rw [Frame.octets, List.cons_append, List.append_assoc, readMessage_denotes frame.definite,
    readContent_append _ _ _ frame.fits]
  rfl

/-- Inversion of `readMessage`: a message that a stream gives is a `Frame`, and what was at its
front. -/
theorem frame_of_readMessage {stream message rest : Octets}
    (h : readMessage stream = (.ok message, rest)) :
    stream = message ++ rest ∧ ∃ frame : Frame, frame.octets = message := by
  match stream, h with
  | tag :: first :: stream, h =>
    rw [readMessage] at h
    split at h
    case isTrue => cases h
    case isFalse same =>
      obtain rfl := not_not.mp same
      split at h
      -- one octet below 0x80 is the length itself
      case isTrue low =>
        obtain ⟨content, sized, fits, rfl, rfl⟩ := eq_append_of_readContent h
        refine ⟨rfl, ⟨[first], content, ?_, sized ▸ fits⟩, rfl⟩
        rw [sized]
        exact .short low
      case isFalse high =>
        split at h
        case isTrue => cases h
        case isFalse definite =>
          dsimp only at h
          split at h
          case isTrue => cases h
          case isFalse few =>
            split at h
            case h_1 => cases h
            case h_2 field later taken =>
              obtain ⟨rfl, counted⟩ := eq_append_of_take? taken
              obtain ⟨content, sized, fits, rfl, rfl⟩ := eq_append_of_readContent h
              -- the octets of the count denote it, with as many zeros in front as there are
              obtain ⟨isCount, some⟩ := Length.eq_count high definite counted
              refine ⟨by simp only [List.cons_append, List.append_assoc],
                ⟨first :: field, content, ?_, sized ▸ fits⟩, rfl⟩
              rw [sized, isCount]
              exact .long some (counted ▸ Nat.not_lt.mp few)

/-! ## One message after another -/

/-- So many messages off the front of a stream, and what is left of it. -/
def readMessages : (count : Nat) → Octets → List (Except Fault Octets) × Octets
  | 0, stream => ([], stream)
  | count + 1, stream =>
    let (message, stream) := readMessage stream
    let (messages, stream) := readMessages count stream
    (message :: messages, stream)

/-- Frames in a row are read one by one, by `readMessage_frame` at each. -/
theorem readMessages_frames (frames : List Frame) (rest : Octets) :
    readMessages frames.length (frames.flatMap Frame.octets ++ rest)
      = (frames.map fun frame => .ok frame.octets, rest) := by
  induction frames with
  | nil => rfl
  | cons frame frames ih =>
    rw [List.flatMap_cons, List.append_assoc, List.length_cons, readMessages]
    simp only [readMessage_frame, ih, List.map_cons]

/-- A stream and the reader of messages divide octets alike. What `readMessage` gives is what comes
next in the stream, and the reader of messages takes all of that and nothing else: it misses nothing
at the end, and finds nothing after it. All messages with a definite length that fits are given, in
order. -/
theorem framing_agrees :
    (∀ stream message rest, readMessage stream = (.ok message, rest) →
      stream = message ++ rest ∧
      (∃ content, Read.sequence.on (.ofOctets message)
          = (.ok (.ofOctets content), ⟨message.length, []⟩) ∧
        Message.decode message = Message.readFields.of content) ∧
      ∀ e, Message.decode message = .error e → e.fault ≠ .trailingData) ∧
    ∀ (frames : List Frame) (rest : Octets),
      readMessages frames.length (frames.flatMap Frame.octets ++ rest)
        = (frames.map fun frame => .ok frame.octets, rest) := by
  refine ⟨fun stream message rest given => ?_, readMessages_frames⟩
  obtain ⟨whole, frame, rfl⟩ := frame_of_readMessage given
  have opened := frame.takes_sequence 0 []
  rw [List.append_nil, Nat.zero_add] at opened
  refine ⟨whole, ⟨frame.content, opened, frame.decode_octets⟩, fun e failed => ?_⟩
  rw [frame.decode_octets] at failed
  exact Message.readFields_tolerant (.ofOctets frame.content) e failed

/-- A version alone in a frame with more length octets than it needs, and the same with just as
many. -/
theorem framing_agrees_padded :
    (readMessage [0x30, 0x82, 0, 3, 2, 1, 1, 0x30] = (.ok [0x30, 0x82, 0, 3, 2, 1, 1], [0x30]) ∧
      (∃ content, Read.sequence.on (.ofOctets [0x30, 0x82, 0, 3, 2, 1, 1])
          = (.ok (.ofOctets content), ⟨7, []⟩) ∧
        Message.decode [0x30, 0x82, 0, 3, 2, 1, 1] = Message.readFields.of content) ∧
      Message.decode [0x30, 0x82, 0, 3, 2, 1, 1] = .error ⟨3, .truncatedData⟩ ∧
      DecodeFault.truncatedData ≠ .trailingData) ∧
    readMessages 2 [0x30, 0x82, 0, 3, 2, 1, 1, 0x30, 3, 2, 1, 1, 0x30]
      = ([.ok [0x30, 0x82, 0, 3, 2, 1, 1], .ok [0x30, 3, 2, 1, 1]], [0x30]) := by
  have given : readMessage [0x30, 0x82, 0, 3, 2, 1, 1, 0x30]
      = (.ok [0x30, 0x82, 0, 3, 2, 1, 1], [0x30]) := by decide
  have failed : Message.decode [0x30, 0x82, 0, 3, 2, 1, 1] = .error ⟨3, .truncatedData⟩ := by
    decide
  have padded : Length.Denotes (0x82 :: [0, 3]) (Octets.toNat [0, 3]) :=
    @Length.Denotes.long [0, 3] (by decide) (by decide)
  have least : Length.Denotes [3] 3 := @Length.Denotes.short 3 (by decide)
  obtain ⟨-, opened, exact⟩ := framing_agrees.1 _ _ _ given
  exact ⟨⟨given, opened, failed, exact _ failed⟩,
    framing_agrees.2 [⟨_, [2, 1, 1], padded, by decide⟩, ⟨_, [2, 1, 1], least, by decide⟩] [0x30]⟩

end Stream

end SnmpManager
