import SnmpManager.Agent
import SnmpManager.Proofs.Oid.Grammar
import SnmpManager.Proofs.Text.Split

/-!
# How an agent may be specified

A specifier is a host, with a transport before and a port after it where one is given. Each form
has its own rule for where the host ends; the reader takes all of them, and reads every character
of what it takes but for one thing: what follows a closing bracket is looked at for a port only.

- `Agent.IsTransport`: the transport words; `Agent.Ending`: no port, or a colon and a port.
- `Agent.Spells`: the forms, and the agent that each stands for.
- `Agent.TrailsOff`: a host in brackets, followed by what is no port.
- `Agent.parse_spelled_or_trailing`: what is read, and as which agent.
-/

namespace SnmpManager.Agent

/-! ## Transports -/

/-- The transport words, in small letters. -/
def transports : List (String × Protocol × Family) := [
  ("udp", .udp, .v4), ("tcp", .tcp, .v4),
  ("udp6", .udp, .v6), ("udpv6", .udp, .v6), ("udpipv6", .udp, .v6),
  ("tcp6", .tcp, .v6), ("tcpv6", .tcp, .v6), ("tcpipv6", .tcp, .v6)]

/-- A word stands for a transport, whatever the case of its letters. -/
def IsTransport (word : List Char) (protocol : Protocol) (family : Family) : Prop :=
  (String.ofList (word.map Char.toLower), protocol, family) ∈ transports

instance (word : List Char) (protocol : Protocol) (family : Family) :
    Decidable (IsTransport word protocol family) :=
  inferInstanceAs (Decidable (_ ∈ transports))

section

variable {word : List Char} {protocol : Protocol} {family : Family}

/-- What `transport?` finds for a word is in `transports`. -/
theorem isTransport_of_transport? (h : transport? word = some (protocol, family)) :
    IsTransport word protocol family := by
  rw [transport?] at h
  split at h
  case h_9 => cases h
  all_goals
    rename_i small
    cases h
    rw [IsTransport, small]
    decide

/-- `transport?` finds every one of `transports`, so the first that fits is the only one. -/
theorem IsTransport.transport? (h : IsTransport word protocol family) :
    transport? word = some (protocol, family) := by
  simp only [IsTransport, transports, List.mem_cons, List.not_mem_nil, or_false,
    Prod.mk.injEq] at h
  rw [Agent.transport?]
  rcases h with h | h | h | h | h | h | h | h
  all_goals
    obtain ⟨small, rfl, rfl⟩ := h
    rw [small]
    rfl

theorem transport?_eq_some_iff :
    transport? word = some (protocol, family) ↔ IsTransport word protocol family :=
  ⟨isTransport_of_transport?, IsTransport.transport?⟩

theorem transport?_eq_none_iff :
    transport? word = none ↔ ∀ protocol family, ¬ IsTransport word protocol family := by
  simp only [← transport?_eq_some_iff]
  rw [Option.eq_none_iff_forall_ne_some]
  exact Prod.forall

/-- No word of `transports` has a colon, so a specifier is cut behind the word. -/
theorem IsTransport.colon_not_mem (h : IsTransport word protocol family) : ':' ∉ word := by
  intro mem
  have small : ':' ∈ word.map Char.toLower := List.mem_map_of_mem (f := Char.toLower) mem
  have plain : ∀ entry ∈ transports, ':' ∉ entry.1.toList := by decide
  refine plain _ h ?_
  rw [String.toList_ofList]
  exact small

end

/-! ## Ports -/

/-- Digits that denote a port, as `Decimal.unsigned?` reads them. -/
def IsPort (digits : List Char) (port : UInt16) : Prop :=
  Decimal.unsigned? 65536 digits = some port.toNat

/-- What comes after a host: nothing, which leaves the default port, or a colon and a port. -/
inductive Ending (default : UInt16) : List Char → UInt16 → Prop where
  | absent : Ending default [] default
  | port {digits : List Char} {port : UInt16} (number : IsPort digits port) :
      Ending default (':' :: digits) port

theorem IsPort.colon_not_mem {digits : List Char} {port : UInt16} (h : IsPort digits port) :
    ':' ∉ digits := by
  obtain ⟨number | ⟨rest, rfl, number⟩, -⟩ := Decimal.unsigned?_eq_some_iff.mp h
  · exact number.not_mem rfl
  · exact List.not_mem_cons_of_ne_of_not_mem (by decide) (number.not_mem rfl)

theorem isPort_toString (port : UInt16) : IsPort (toString port).toList port := by
  have written : (toString port).toList = Nat.toDigits 10 port.toNat :=
    Decimal.toList_toString_nat port.toNat
  rw [IsPort, written, Decimal.unsigned?_eq_some_iff]
  exact ⟨.inl (Decimal.nat?_eq_some_iff.mp (Decimal.nat?_toDigits port.toNat)), port.toNat_lt⟩

/-- What is written for the text of a port. -/
def portText : Option (List Char) → List Char
  | none => []
  | some digits => ':' :: digits

section

variable {default port : UInt16} {digits : List Char}

theorem ending_nil_iff : Ending default [] port ↔ port = default := by
  constructor
  · intro ending
    cases ending
    rfl
  · rintro rfl
    exact .absent

theorem ending_cons_iff : Ending default (':' :: digits) port ↔ IsPort digits port := by
  constructor
  · intro ending
    cases ending with
    | port number => exact number
  · exact .port

end

/-- Inversion of `build`: a host is named, and what comes after it is an `Ending`. -/
theorem build_eq_ok_iff {protocol : Protocol} {family : Family} {host : List Char}
    {port? : Option (List Char)} {default : UInt16} {agent : Agent} :
    build protocol family host port? default = .ok agent ↔
      host ≠ [] ∧ ∃ port, Ending default (portText port?) port ∧
        ⟨protocol, family, String.ofList host, port⟩ = agent := by
  unfold build
  split
  case isTrue empty => simp [invalid, empty]
  case isFalse filled =>
    cases port? with
    | none => simp [filled, portText, ending_nil_iff]
    | some digits =>
      simp only [portText, ending_cons_iff, IsPort, ne_eq, filled, not_false_eq_true, true_and]
      cases number : Decimal.unsigned? 65536 digits with
      | none => simp [invalid]
      | some n =>
        have small : n < 65536 := (Decimal.unsigned?_eq_some_iff.mp number).2
        have whole : (UInt16.ofNat n).toNat = n := UInt16.toNat_ofNat_of_lt' small
        constructor
        · rintro ⟨⟩
          exact ⟨UInt16.ofNat n, by rw [whole], rfl⟩
        · rintro ⟨port, same, rfl⟩
          cases same
          simp only [UInt16.ofNat_toNat]

/-! ## Forms -/

/-- The texts that stand for an agent. -/
inductive Spells (default : UInt16) : List Char → Agent → Prop where
  | host {host ending : List Char} {port : UInt16} (filled : host ≠ []) (plain : ':' ∉ host)
      (other : ending = [] ∨ ∀ protocol family, ¬ IsTransport host protocol family)
      (ends : Ending default ending port) :
      Spells default (host ++ ending) ⟨.udp, .v4, String.ofList host, port⟩
  | ipv4 {word host ending : List Char} {protocol : Protocol} {port : UInt16}
      (transport : IsTransport word protocol .v4) (filled : host ≠ []) (plain : ':' ∉ host)
      (ends : Ending default ending port) :
      Spells default (word ++ ':' :: (host ++ ending)) ⟨protocol, .v4, String.ofList host, port⟩
  | bracketed {word host ending : List Char} {protocol : Protocol} {port : UInt16}
      (transport : IsTransport word protocol .v6) (filled : host ≠ []) (plain : ']' ∉ host)
      (ends : Ending default ending port) :
      Spells default (word ++ ':' :: '[' :: (host ++ ']' :: ending))
        ⟨protocol, .v6, String.ofList host, port⟩
  | ipv6 {word host digits : List Char} {protocol : Protocol} {port : UInt16}
      (transport : IsTransport word protocol .v6) (filled : host ≠ [])
      (bare : host.head? ≠ some '[') (number : IsPort digits port) :
      Spells default (word ++ ':' :: (host ++ ':' :: digits))
        ⟨protocol, .v6, String.ofList host, port⟩

/-- A host in brackets, followed by something that is no port: it stands for the agent at the
default port. -/
inductive TrailsOff (default : UInt16) : List Char → Agent → Prop where
  | bracketed {word host trailer : List Char} {protocol : Protocol}
      (transport : IsTransport word protocol .v6) (filled : host ≠ []) (plain : ']' ∉ host)
      (more : trailer ≠ []) (other : trailer.head? ≠ some ':') :
      TrailsOff default (word ++ ':' :: '[' :: (host ++ ']' :: trailer))
        ⟨protocol, .v6, String.ofList host, default⟩

/-- What trails off is none of the forms that `Spells` has. -/
theorem TrailsOff.not_spells {default default' : UInt16} {text : List Char} {agent agent' : Agent}
    (h : TrailsOff default text agent) : ¬ Spells default' text agent' := by
  obtain @⟨word, host, trailer, protocol, transport, -, plain, more, other⟩ := h
  intro spells
  generalize written : word ++ ':' :: '[' :: (host ++ ']' :: trailer) = text at spells
  -- the first colon stands behind the transport in both readings, so the words are the same; what
  -- is left differs in each form
  cases spells with
  | @host _ ending _ _ plain' other' ends =>
    cases ends with
    | absent =>
      rw [List.append_nil] at written
      rw [← written] at plain'
      exact plain' (List.mem_append_right _ List.mem_cons_self)
    | port number =>
      obtain ⟨rfl, -⟩ := Text.append_cons_inj transport.colon_not_mem plain' written
      rcases other' with impossible | other'
      · cases impossible
      · exact other' _ _ transport
  | ipv4 transport' _ _ _ =>
    obtain ⟨rfl, -⟩ :=
      Text.append_cons_inj transport.colon_not_mem transport'.colon_not_mem written
    -- one word cannot stand for both families
    have same := transport.transport?.symm.trans transport'.transport?
    cases same
  | bracketed transport' _ plain' ends =>
    obtain ⟨-, rest⟩ :=
      Text.append_cons_inj transport.colon_not_mem transport'.colon_not_mem written
    obtain ⟨-, rfl⟩ := Text.append_cons_inj plain plain' (List.cons.inj rest).2
    cases ends with
    | absent => exact more rfl
    | port _ => exact other rfl
  | ipv6 transport' filled bare _ =>
    obtain ⟨-, rest⟩ :=
      Text.append_cons_inj transport.colon_not_mem transport'.colon_not_mem written
    obtain ⟨c, more, rfl⟩ := List.exists_cons_of_ne_nil filled
    exact bare (congrArg some (List.cons.inj rest).1.symm)

/-! ## Reading -/

section

variable {default : UInt16} {text word host rest : List Char} {protocol : Protocol} {agent : Agent}

theorem parse_of_plain (plain : ':' ∉ text) :
    parse (String.ofList text) default = build .udp .v4 text none default := by
  simp only [parse, String.toList_ofList, Text.splitFirst?_eq_none plain]

/-- A first part that is no transport is a host over UDP and IPv4: `build` gets it with the rest as
the text of the port. -/
theorem parse_of_word (plain : ':' ∉ word) (other : transport? word = none) :
    parse (String.ofList (word ++ ':' :: rest)) default
      = build .udp .v4 word (some rest) default := by
  simp only [parse, String.toList_ofList, Text.splitFirst?_append plain, other]

/-- Behind a transport over IPv4, host and port are what `splitIpv4` makes of the rest. -/
theorem parse_of_ipv4 (transport : IsTransport word protocol .v4) :
    parse (String.ofList (word ++ ':' :: rest)) default
      = build protocol .v4 (splitIpv4 rest).1 (splitIpv4 rest).2 default := by
  simp only [parse, String.toList_ofList, Text.splitFirst?_append transport.colon_not_mem,
    transport.transport?]

/-- Behind a transport over IPv6, host and port are what `splitIpv6?` makes of the rest, if it can
cut it. -/
theorem parse_of_ipv6 (transport : IsTransport word protocol .v6) {port? : Option (List Char)}
    (cut : splitIpv6? rest = some (host, port?)) :
    parse (String.ofList (word ++ ':' :: rest)) default
      = build protocol .v6 host port? default := by
  simp only [parse, String.toList_ofList, Text.splitFirst?_append transport.colon_not_mem,
    transport.transport?, cut]

theorem parse_of_ipv6_uncut (transport : IsTransport word protocol .v6)
    (uncut : splitIpv6? rest = none) :
    parse (String.ofList (word ++ ':' :: rest)) default = invalid := by
  simp only [parse, String.toList_ofList, Text.splitFirst?_append transport.colon_not_mem,
    transport.transport?, uncut]

end

/-! ## Hosts and ports -/

section

variable {rest host digits : List Char} {port? : Option (List Char)}

theorem splitIpv4_append (plain : ':' ∉ host) (port? : Option (List Char)) :
    splitIpv4 (host ++ portText port?) = (host, port?) := by
  cases port? with
  | none => rw [portText, List.append_nil, splitIpv4, Text.splitFirst?_eq_none plain]
  | some digits => rw [portText, splitIpv4, Text.splitFirst?_append plain]

/-- `splitIpv4` cuts at the first colon, so the host has none. -/
theorem eq_append_of_splitIpv4 (h : splitIpv4 rest = (host, port?)) :
    rest = host ++ portText port? ∧ ':' ∉ host := by
  rw [splitIpv4] at h
  split at h
  case h_1 cut =>
    cases h
    exact Text.splitFirst?_eq_some_iff.mp cut
  case h_2 uncut =>
    cases h
    exact ⟨(List.append_nil _).symm, Text.splitFirst?_eq_none_iff.mp uncut⟩

theorem splitIpv6?_bracketed (plain : ']' ∉ host) (port? : Option (List Char)) :
    splitIpv6? ('[' :: (host ++ ']' :: portText port?)) = some (host, port?) := by
  rw [splitIpv6?, Text.splitFirst?_append plain]
  cases port? <;> rfl

/-- What follows the bracket and is no colon is dropped by `splitIpv6?`. -/
theorem splitIpv6?_trailing (plain : ']' ∉ host) {trailer : List Char}
    (other : trailer.head? ≠ some ':') :
    splitIpv6? ('[' :: (host ++ ']' :: trailer)) = some (host, none) := by
  rw [splitIpv6?, Text.splitFirst?_append plain, Option.map_some]
  dsimp only
  split
  case h_1 => exact absurd rfl other
  case h_2 => rfl

/-- Without brackets the last colon divides host and port, so the host may have colons. -/
theorem splitIpv6?_bare (filled : host ≠ []) (bare : host.head? ≠ some '[') (plain : ':' ∉ digits) :
    splitIpv6? (host ++ ':' :: digits) = some (host, some digits) := by
  obtain ⟨c, more, rfl⟩ := List.exists_cons_of_ne_nil filled
  rw [List.cons_append, splitIpv6?]
  · rw [← List.cons_append, Text.splitLast?_append plain]
    rfl
  · rintro _ ⟨⟩
    exact bare rfl

/-- Inversion of `splitIpv6?`: with brackets or without, what the host and the port are cut from. -/
theorem eq_of_splitIpv6? (h : splitIpv6? rest = some (host, port?)) :
    (∃ ending, rest = '[' :: (host ++ ']' :: ending) ∧ ']' ∉ host ∧
      (ending = portText port? ∨ port? = none ∧ ending ≠ [] ∧ ending.head? ≠ some ':')) ∨
    ∃ digits, rest = host ++ ':' :: digits ∧ ':' ∉ digits ∧ port? = some digits ∧
      host.head? ≠ some '[' := by
  unfold splitIpv6? at h
  split at h
  case h_1 bracketed =>
    obtain ⟨⟨start, ending⟩, cut, parts⟩ := Option.map_eq_some_iff.mp h
    obtain ⟨rfl, plain⟩ := Text.splitFirst?_eq_some_iff.mp cut
    dsimp only at parts
    split at parts
    case h_1 digits =>
      cases parts
      exact .inl ⟨_, rfl, plain, .inl rfl⟩
    case h_2 other =>
      cases parts
      refine .inl ⟨ending, rfl, plain, ?_⟩
      -- nothing after the bracket is an ending without a port; anything else trails off
      cases ending with
      | nil => exact .inl rfl
      | cons c more =>
        refine .inr ⟨rfl, List.cons_ne_nil c more, ?_⟩
        rintro ⟨⟩
        exact other more rfl
  case h_2 other =>
    obtain ⟨⟨start, digits⟩, cut, parts⟩ := Option.map_eq_some_iff.mp h
    obtain ⟨rfl, plain⟩ := Text.splitLast?_eq_some_iff.mp cut
    cases parts
    refine .inr ⟨digits, rfl, plain, rfl, fun bracket => ?_⟩
    obtain ⟨more, rfl⟩ := List.head?_eq_some_iff.mp bracket
    exact other _ rfl

end

/-! ## Specifiers -/

section

variable {default : UInt16} {text : List Char} {agent : Agent}

/-- What is read `Spells` an agent, or `TrailsOff`. The cases are those of the reader: no colon, no
transport before it, IPv4, IPv6. -/
theorem spells_or_trailsOff_of_parse (h : parse (String.ofList text) default = .ok agent) :
    Spells default text agent ∨ TrailsOff default text agent := by
  by_cases colon : ':' ∈ text
  case neg =>
    rw [parse_of_plain colon, build_eq_ok_iff] at h
    obtain ⟨filled, port, ends, rfl⟩ := h
    have whole := Spells.host filled colon (.inl rfl) ends
    rw [List.append_nil] at whole
    exact .inl whole
  case pos =>
    obtain ⟨word, rest, rfl, plain⟩ := List.eq_append_cons_of_mem colon
    cases known : transport? word with
    | none =>
      rw [parse_of_word plain known, build_eq_ok_iff] at h
      obtain ⟨filled, port, ends, rfl⟩ := h
      exact .inl (.host filled plain (.inr (transport?_eq_none_iff.mp known)) ends)
    | some known' =>
      obtain ⟨protocol, family⟩ := known'
      have transport := transport?_eq_some_iff.mp known
      cases family with
      | v4 =>
        cases cut : splitIpv4 rest with
        | mk host port? =>
          rw [parse_of_ipv4 transport, cut, build_eq_ok_iff] at h
          obtain ⟨filled, port, ends, rfl⟩ := h
          obtain ⟨rfl, plain⟩ := eq_append_of_splitIpv4 cut
          exact .inl (.ipv4 transport filled plain ends)
      | v6 =>
        cases cut : splitIpv6? rest with
        | none =>
          rw [parse_of_ipv6_uncut transport cut] at h
          cases h
        | some parts =>
          obtain ⟨host, port?⟩ := parts
          rw [parse_of_ipv6 transport cut, build_eq_ok_iff] at h
          obtain ⟨filled, port, ends, rfl⟩ := h
          rcases eq_of_splitIpv6? cut with ⟨ending, rfl, plain, seen⟩ | ⟨digits, rfl, -, rfl, bare⟩
          · rcases seen with rfl | ⟨rfl, more, other⟩
            · exact .inl (.bracketed transport filled plain ends)
            -- no port was cut off, so the agent is at the default one
            · obtain rfl := ending_nil_iff.mp ends
              exact .inr (.bracketed transport filled plain more other)
          · exact .inl (.ipv6 transport filled bare (ending_cons_iff.mp ends))

theorem exists_portText {ending : List Char} {port : UInt16} (h : Ending default ending port) :
    ∃ port?, ending = portText port? := by
  cases h with
  | absent => exact ⟨none, rfl⟩
  | port _ => exact ⟨some _, rfl⟩

/-- Each of the forms that `Spells` has is read as the agent it stands for. -/
theorem parse_of_spells (h : Spells default text agent) :
    parse (String.ofList text) default = .ok agent := by
  cases h with
  | host filled plain other ends =>
    obtain ⟨port?, rfl⟩ := exists_portText ends
    cases port? with
    | none =>
      rw [portText, List.append_nil, parse_of_plain plain, build_eq_ok_iff]
      exact ⟨filled, _, ends, rfl⟩
    | some digits =>
      have other := other.resolve_left (List.cons_ne_nil ':' digits)
      rw [portText, parse_of_word plain (transport?_eq_none_iff.mpr other), build_eq_ok_iff]
      exact ⟨filled, _, ends, rfl⟩
  | ipv4 transport filled plain ends =>
    obtain ⟨port?, rfl⟩ := exists_portText ends
    rw [parse_of_ipv4 transport, splitIpv4_append plain, build_eq_ok_iff]
    exact ⟨filled, _, ends, rfl⟩
  | bracketed transport filled plain ends =>
    obtain ⟨port?, rfl⟩ := exists_portText ends
    rw [parse_of_ipv6 transport (splitIpv6?_bracketed plain port?), build_eq_ok_iff]
    exact ⟨filled, _, ends, rfl⟩
  | ipv6 transport filled bare number =>
    rw [parse_of_ipv6 transport (splitIpv6?_bare filled bare number.colon_not_mem),
      build_eq_ok_iff]
    exact ⟨filled, _, .port number, rfl⟩

/-- What `TrailsOff` is read as well, since `splitIpv6?` drops what comes after the bracket. -/
theorem parse_of_trailsOff (h : TrailsOff default text agent) :
    parse (String.ofList text) default = .ok agent := by
  obtain ⟨transport, filled, plain, -, other⟩ := h
  rw [parse_of_ipv6 transport (splitIpv6?_trailing plain other), build_eq_ok_iff]
  exact ⟨filled, _, .absent, rfl⟩

end

/-- What `Spells` an agent is read as that agent, and so is what `TrailsOff`, a host in brackets
with something after it that is no port. Nothing else is read. -/
theorem parse_spelled_or_trailing (spec : String) (default : UInt16) (agent : Agent) :
    parse spec default = .ok agent ↔
      Spells default spec.toList agent ∨ TrailsOff default spec.toList agent := by
  rw [← String.ofList_toList (s := spec)]
  simp only [String.toList_ofList]
  refine ⟨spells_or_trailsOff_of_parse, ?_⟩
  rintro (spells | trails)
  · exact parse_of_spells spells
  · exact parse_of_trailsOff trails

/-- What follows the bracket is dropped, though no form has it. -/
theorem parse_trailing_loopback :
    parse "udp6:[::1]x" 161 = .ok ⟨.udp, .v6, "::1", 161⟩ ∧
      ∀ default agent, ¬ Spells default "udp6:[::1]x".toList agent := by
  have transport : IsTransport "udp6".toList .udp .v6 := by decide
  have trails : TrailsOff 161 "udp6:[::1]x".toList ⟨.udp, .v6, "::1", 161⟩ :=
    @TrailsOff.bracketed 161 "udp6".toList "::1".toList "x".toList .udp transport (by decide)
      (by decide) (by decide) (by decide)
  exact ⟨parse_of_trailsOff trails, fun _ _ => trails.not_spells⟩

/-! ## Written specifiers -/

section

variable {host : String} {port default : UInt16}

/-- `parse_of_spells` for a specifier and a host that are strings. -/
theorem parse_eq_of_spells {spec : String} {text : List Char} {protocol : Protocol}
    {family : Family} (written : spec.toList = text)
    (h : Spells default text ⟨protocol, family, String.ofList host.toList, port⟩) :
    parse spec default = .ok ⟨protocol, family, host, port⟩ := by
  rw [String.ofList_toList] at h
  rw [← String.ofList_toList (s := spec), written]
  exact parse_of_spells h

end

/-- A host and a port are read back, whatever the transport, from each form the host may stand in:
over IPv4 and without a transport if the host has no colon, in brackets if it has no closing one,
and over IPv6 also without brackets if it does not start with one. A transport is a word that
`IsTransport`. -/
theorem parse_written (host : String) (named : host ≠ "") (port default : UInt16) :
    (∀ word protocol, IsTransport word.toList protocol .v4 → ':' ∉ host.toList →
      parse (word ++ ":" ++ host ++ ":" ++ toString port) default
          = .ok ⟨protocol, .v4, host, port⟩ ∧
        parse (word ++ ":" ++ host) default = .ok ⟨protocol, .v4, host, default⟩) ∧
    (∀ word protocol, IsTransport word.toList protocol .v6 → ']' ∉ host.toList →
      parse (word ++ ":[" ++ host ++ "]:" ++ toString port) default
          = .ok ⟨protocol, .v6, host, port⟩ ∧
        parse (word ++ ":[" ++ host ++ "]") default = .ok ⟨protocol, .v6, host, default⟩) ∧
    (∀ word protocol, IsTransport word.toList protocol .v6 → host.toList.head? ≠ some '[' →
      parse (word ++ ":" ++ host ++ ":" ++ toString port) default
        = .ok ⟨protocol, .v6, host, port⟩) ∧
    (':' ∉ host.toList →
      parse host default = .ok ⟨.udp, .v4, host, default⟩ ∧
        ((∀ protocol family, ¬ IsTransport host.toList protocol family) →
          parse (host ++ ":" ++ toString port) default = .ok ⟨.udp, .v4, host, port⟩)) := by
  have filled : host.toList ≠ [] := fun none => named (String.toList_eq_nil_iff.mp none)
  have number := isPort_toString port
  refine ⟨fun word protocol transport plain => ⟨?_, ?_⟩,
    fun word protocol transport plain => ⟨?_, ?_⟩,
    fun word protocol transport bare => ?_, fun plain => ⟨?_, fun other => ?_⟩⟩
  · exact parse_eq_of_spells (by simp) (.ipv4 transport filled plain (.port number))
  · exact parse_eq_of_spells (by simp) (.ipv4 transport filled plain .absent)
  · exact parse_eq_of_spells (by simp) (.bracketed transport filled plain (.port number))
  · exact parse_eq_of_spells (by simp) (.bracketed transport filled plain .absent)
  · exact parse_eq_of_spells (by simp) (.ipv6 transport filled bare number)
  · exact parse_eq_of_spells (by simp) (.host filled plain (.inl rfl) .absent)
  · exact parse_eq_of_spells (by simp) (.host filled plain (.inr other) (.port number))

/-- A host that is a transport word itself, and one with colons that is written in two ways. -/
theorem parse_written_crowded :
    parse "TcP:udp:65535" 161 = .ok ⟨.tcp, .v4, "udp", 65535⟩ ∧
      parse "udp" 162 = .ok ⟨.udp, .v4, "udp", 162⟩ ∧
      parse "UDPv6:[fe80::1:2]" 161 = .ok ⟨.udp, .v6, "fe80::1:2", 161⟩ ∧
      parse "tcpipv6:fe80::1:2:0" 161 = .ok ⟨.tcp, .v6, "fe80::1:2", 0⟩ ∧
      parse "nms:162" 161 = .ok ⟨.udp, .v4, "nms", 162⟩ := by
  obtain ⟨ipv4, -, -, -⟩ := parse_written "udp" (by decide) 65535 161
  obtain ⟨-, -, -, bare⟩ := parse_written "udp" (by decide) 0 162
  obtain ⟨-, bracketed, ipv6, -⟩ := parse_written "fe80::1:2" (by decide) 0 161
  obtain ⟨-, -, -, host⟩ := parse_written "nms" (by decide) 162 161
  refine ⟨(ipv4 "TcP" .tcp (by decide) (by decide)).1, (bare (by decide)).1,
    (bracketed "UDPv6" .udp (by decide) (by decide)).2, ipv6 "tcpipv6" .tcp (by decide) (by decide),
    (host (by decide)).2 ?_⟩
  intro protocol family
  cases protocol <;> cases family <;> decide

end SnmpManager.Agent
