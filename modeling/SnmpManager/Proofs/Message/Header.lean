import SnmpManager.Proofs.Ber.Uses
import SnmpManager.Proofs.Message.Size

/-!
# What every message keeps on the wire

A message outside the domain of the codec may be read as another message, or as
none. What is read in its place still has its version, its community, its kind, its
three numbers and as many bindings (`Message.header_of_decode`): these come before
the content of any binding, or are known without it.

- `Read.Recovers read data post`: if `read` yields anything from `data`, it takes all
  of `data`, and what it yields is as `post` says.
- `Message.SameHeader`: messages that differ in what their bindings hold, and only
  there.
-/

namespace SnmpManager

namespace Read

variable {α β : Type}

/-- If the read yields anything, it takes `data` off the front of what is ahead, and what it yields
is as `post` says. It may as well fail. -/
def Recovers (read : Read α) (data : Octets) (post : α → Prop) : Prop :=
  ∀ offset rest a after, read.on ⟨offset, data ++ rest⟩ = (.ok a, after) →
    after = ⟨offset + data.length, rest⟩ ∧ post a

/-- A read that is certain to yield `a` yields nothing else. -/
theorem Takes.recovers {read : Read α} {data : Octets} {a : α} (h : Takes read data a) :
    Recovers read data (· = a) := by
  intro offset rest b after yields
  rw [h] at yields
  cases yields
  exact ⟨rfl, rfl⟩

theorem recovers_pure {a : α} {post : α → Prop} (h : post a) : Recovers (pure a) [] post := by
  intro offset rest b after yields
  rw [on_pure] at yields
  cases yields
  exact ⟨rfl, h⟩

/-- Reads that yield something follow one another as in `Takes.bind`, with what the first yields
known by `post` only. -/
theorem Recovers.bind {first : Read α} {second : α → Read β} {front back : Octets}
    {post : α → Prop} {post' : β → Prop} (h : Recovers first front post)
    (h' : ∀ a, post a → Recovers (second a) back post') :
    Recovers (first >>= second) (front ++ back) post' := by
  intro offset rest b after yields
  rw [on_bind, List.append_assoc] at yields
  split at yields
  case h_1 a between yielded =>
    obtain ⟨rfl, holds⟩ := h offset (back ++ rest) a between yielded
    obtain ⟨rfl, holds⟩ := h' a holds _ rest b after yields
    rw [List.length_append, Nat.add_assoc]
    exact ⟨rfl, holds⟩
  case h_2 => cases yields

/-- `Recovers.bind` where the first part reads back for certain. -/
theorem Takes.bind_recovers {first : Read α} {second : α → Read β} {front back : Octets} {a : α}
    {post : β → Prop} (h : Takes first front a) (h' : Recovers (second a) back post) :
    Recovers (first >>= second) (front ++ back) post := by
  refine h.recovers.bind ?_
  rintro _ rfl
  exact h'

/-- `Recovers.bind` where the last part takes nothing. -/
theorem Recovers.bind_nil {first : Read α} {second : α → Read β} {data : Octets}
    {post : α → Prop} {post' : β → Prop} (h : Recovers first data post)
    (h' : ∀ a, post a → Recovers (second a) [] post') :
    Recovers (first >>= second) data post' := by
  have both := h.bind h'
  rwa [List.append_nil] at both

theorem recovers_get_bind {read : Cursor → Read α} {data : Octets} {post : α → Prop}
    (h : ∀ cursor, Recovers (read cursor) data post) :
    Recovers (do read (← get)) data post := by
  intro offset rest a after yields
  rw [on_bind, on_get] at yields
  exact h _ offset rest a after yields

/-- A read inside other octets takes nothing of its own. -/
theorem recovers_within {read : Read α} {inner : Cursor} {post : α → Prop}
    (h : ∀ a after, read.on inner = (.ok a, after) → post a) :
    Recovers (within inner read) [] post := by
  intro offset rest a after yields
  unfold Read.within at yields
  split at yields
  case h_1 =>
    rw [on_throw] at yields
    cases yields
  case h_2 b last inside =>
    rw [on_pure] at yields
    cases yields
    exact ⟨rfl, h a last inside⟩

/-- A read of `data` that is given no more than `data`. -/
theorem Recovers.of_data {read : Read α} {data : Octets} {post : α → Prop}
    (h : Recovers read data post) {a : α} {after : Cursor}
    (yields : read.on (.ofOctets data) = (.ok a, after)) : post a := by
  rw [Cursor.ofOctets, ← List.append_nil data] at yields
  exact (h 0 [] a after yields).2

end Read

/-! ## Bindings are counted -/

/-- Of a binding it is only known that it takes its own octets, if it is read at all: it may be
outside the domain of the codec. -/
theorem VarBind.recovers_read (binding : VarBind) (short : binding.octets.length ≤ Length.max) :
    Read.Recovers read binding.octets fun _ => True := by
  have content := Nat.le_of_lt (Nat.lt_of_lt_of_le (Octets.length_lt_element _ _) short)
  refine (Read.takes_constructed Tag.sequence content).recovers.bind_nil fun inner _ => ?_
  exact Read.recovers_within fun _ _ _ => trivial

namespace VarBindList

/-- There are as many bindings as were written, whatever they hold. By induction on the list, with
`VarBind.recovers_read` for each. -/
theorem length_of_readAll {bindings : List VarBind}
    (short : (content bindings).length ≤ Length.max) {fuel : Nat}
    (enough : bindings.length ≤ fuel) {offset : Nat} {decoded : List VarBind} {after : Cursor}
    (yields : (readAll fuel).on ⟨offset, content bindings⟩ = (.ok decoded, after)) :
    decoded.length = bindings.length := by
  induction bindings generalizing fuel offset decoded after with
  | nil =>
    rw [readAll_of_atEnd rfl] at yields
    cases yields
    rfl
  | cons binding rest ih =>
    -- there is fuel for as many rounds as there are bindings
    obtain ⟨fuel, rfl⟩ : ∃ k, fuel = k + 1 :=
      Nat.exists_eq_succ_of_ne_zero (Nat.ne_of_gt (Nat.lt_of_lt_of_le (Nat.succ_pos _) enough))
    have split : content (binding :: rest) = binding.octets ++ content rest := List.flatMap_cons
    rw [split] at short yields
    rw [List.length_append] at short
    have more : (Cursor.mk offset (binding.octets ++ content rest)).atEnd = false := by
      simp [Cursor.atEnd, VarBind.octets_ne_nil]
    rw [readAll_of_more more, Read.on_bind] at yields
    split at yields
    case h_2 => cases yields
    case h_1 first between read =>
      -- whatever was read in its place, it took the octets of this binding
      obtain ⟨rfl, -⟩ := binding.recovers_read (by omega) _ _ _ _ read
      rw [Read.on_bind] at yields
      split at yields
      case h_2 => cases yields
      case h_1 others last read =>
        cases yields
        rw [List.length_cons, List.length_cons,
          ih (by omega) (Nat.le_of_succ_le_succ enough) read]

/-- What `length_of_readAll` says of the content, for the list with its header. -/
theorem recovers_read {bindings : List VarBind} (short : (octets bindings).length ≤ Length.max) :
    Read.Recovers read (octets bindings) fun decoded => decoded.length = bindings.length := by
  have short := Nat.le_of_lt (Nat.lt_of_lt_of_le (Octets.length_lt_element _ _) short)
  refine (Read.takes_constructed Tag.sequence short).recovers.bind_nil ?_
  rintro _ rfl
  exact Read.recovers_within fun _ _ inside =>
    length_of_readAll short (length_le_content bindings) inside

end VarBindList

/-! ## Units and messages -/

/-- Units that differ in what their bindings hold, and only there. -/
structure Pdu.SameHeader (pdu decoded : Pdu) : Prop where
  kind : decoded.kind = pdu.kind
  requestId : decoded.requestId = pdu.requestId
  errorStatus : decoded.errorStatus = pdu.errorStatus
  errorIndex : decoded.errorIndex = pdu.errorIndex
  bindings : decoded.bindings.length = pdu.bindings.length

/-- Messages that differ in what their bindings hold, and only there. -/
structure Message.SameHeader (message decoded : Message) : Prop where
  version : decoded.version = message.version
  community : decoded.community = message.community
  pdu : message.pdu.SameHeader decoded.pdu

namespace Pdu

/-- The three numbers read back for certain, and then as many bindings as were written. -/
theorem recovers_readFields {pdu : Pdu} (short : pdu.content.length ≤ Length.max) :
    Read.Recovers (readFields pdu.kind) pdu.content pdu.SameHeader := by
  have list : (VarBindList.octets pdu.bindings).length ≤ Length.max := by
    simp only [content, List.length_append] at short
    omega
  refine (Read.takes_integer pdu.requestId).bind_recovers ?_
  refine (Read.takes_integer pdu.errorStatus).bind_recovers ?_
  refine (Read.takes_integer pdu.errorIndex).bind_recovers ?_
  refine (VarBindList.recovers_read list).bind_nil fun bindings counted => ?_
  exact Read.recovers_pure ⟨rfl, rfl, rfl, rfl, counted⟩

theorem recovers_read {pdu : Pdu} (short : pdu.octets.length ≤ Length.max) :
    Read.Recovers read pdu.octets pdu.SameHeader := by
  have short := Nat.le_of_lt (Nat.lt_of_lt_of_le (Octets.length_lt_element _ _) short)
  rw [octets, Octets.element_eq]
  refine Read.recovers_get_bind fun cursor => (Read.takes_tag pdu.kind.tag).bind_recovers ?_
  rw [PduKind.ofTag?_tag]
  refine (Read.takes_length short).bind_recovers ?_
  refine (Read.takes_bytes pdu.content).recovers.bind_nil ?_
  rintro _ rfl
  exact Read.recovers_within fun _ _ inside => (recovers_readFields short).of_data inside

end Pdu

namespace Message

/-- Version and community read back for certain, and then a unit with the same header. -/
theorem recovers_readFields {message : Message} (short : message.content.length ≤ Length.max) :
    Read.Recovers readFields message.content message.SameHeader := by
  simp only [content, List.length_append] at short
  have community := Octets.length_lt_element Tag.octetString message.community
  refine Read.recovers_get_bind fun cursor => ?_
  refine (Read.takes_integer message.version.number).bind_recovers ?_
  rw [Version.ofNumber?_number]
  refine (Read.takes_octetString (by omega)).bind_recovers ?_
  refine (Pdu.recovers_read (by omega)).bind_nil fun pdu same => ?_
  exact Read.recovers_pure ⟨rfl, rfl, same⟩

/-- What is read from one SEQUENCE is not longer than `Length.max`, the longest that is taken. -/
theorem short_of_decode {content : Octets} {message : Message}
    (h : decode (Octets.element Tag.sequence content) = .ok message) :
    content.length ≤ Length.max := by
  by_contra long
  by_cases narrow : content.length < 2 ^ 32
  · rw [decode_long (Nat.not_le.mp long) narrow] at h
    cases h
  -- of such a length only the low part is written, and the rest of the content comes after the end
  rw [decode, Read.of, read, Read.on_bind] at h
  split at h
  case h_2 => cases h
  case h_1 inner between opened =>
    rw [Read.on_bind, Read.on_get] at h
    dsimp only at h
    split at h
    case isFalse => cases h
    case isTrue ended =>
      obtain ⟨used, counted, -, few, fits⟩ :=
        Read.uses_constructed Tag.sequence _ inner between opened
      have nothing : between.remaining = 0 := by
        rwa [Cursor.atEnd, List.isEmpty_iff, ← List.length_eq_zero_iff] at ended
      have wide : (Length.octets content.length).length = 5 := by
        rw [Length.length_octets, Length.width]
        split_ifs <;> omega
      change (Octets.element Tag.sequence content).length = _ at counted
      rw [Octets.element, List.length_cons, List.length_append, wide] at counted
      omega

/-- What is read where a message was written has the `SameHeader`. -/
theorem header_of_decode {message decoded : Message} (h : decode message.encode = .ok decoded) :
    message.SameHeader decoded := by
  rw [encode_eq] at h
  have short := short_of_decode h
  rw [decode_sequence short] at h
  exact (recovers_readFields short).of_data (Prod.ext h rfl)

end Message

end SnmpManager
