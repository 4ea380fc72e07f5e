import SnmpManager.Proofs.Literal.Buffer
import SnmpManager.Proofs.Literal.Runs
import SnmpManager.Proofs.Text.Radix

/-!
# Octets typed as numbers

A literal of octets has one number for each of them, in hex or in decimal. Whether it is accepted
is a matter of each run on its own and of how many there are; where several are at fault the first
one decides the error.

- `Literal.Offends`: what is wrong with a run, given how many come before it.
- `Literal.FirstOffence`: what is wrong with some runs.
- `Literal.octets_of_foldlM_pushByte`, `Literal.offence_of_foldlM_pushByte`: what the runs are read
  as, and what they fail with.
- `Literal.parse_bytes`: all of it for a whole literal.
-/

namespace SnmpManager.Literal

/-- The letter, the base and the separators of each way to type octets as numbers. -/
def byteRules : List (Char × Nat × List Char) :=
  [('x', 16, [' ', '\t', ',']), ('d', 10, [' ', '\t'])]

/-- Runs that are numbers of one octet each, and no more of them than there is room for. -/
structure Fitting (base : Nat) (runs : List (List Char)) : Prop where
  few : runs.length ≤ 65535
  octets : ∀ run ∈ runs, ∃ n ≤ 255, Radix.Denotes base run n

/-- What is wrong with a run that comes after `before` others. -/
inductive Offends (base before : Nat) : List Char → LiteralFault → Prop
  | invalidCharacter {front rest : List Char} {bad : Char}
      (digits : ∀ c ∈ front, ∃ value, Radix.IsDigit base c value)
      (other : ¬ ∃ value, Radix.IsDigit base bad value) :
      Offends base before (front ++ bad :: rest) (.invalidCharacter bad)
  | byteOutOfRange {run : List Char} {n : Nat} (denotes : Radix.Denotes base run n)
      (large : 255 < n) : Offends base before run .byteOutOfRange
  | outOfRange {run : List Char} {n : Nat} (denotes : Radix.Denotes base run n) (small : n ≤ 255)
      (full : 65535 ≤ before) : Offends base before run .outOfRange

/-- What is wrong with the first run that anything is wrong with: those before it are `Fitting`. -/
def FirstOffence (base : Nat) (runs : List (List Char)) (fault : LiteralFault) : Prop :=
  ∃ before run after, runs = before ++ run :: after ∧ Fitting base before ∧
    Offends base before.length run fault

/-! ## Single runs -/

section

variable {base : Nat} {run : List Char}

/-- `number` reads what `Radix.Denotes` says. -/
theorem number_of_denotes {n : Nat} (h : Radix.Denotes base run n) : number base run = .ok n := by
  have digits : run.find? (fun c => (Radix.digit? base c).isNone) = none := by
    rw [List.find?_eq_none]
    intro c mem
    rw [Radix.isNone_digit?_iff, not_not]
    exact h.digits c mem
  rw [number, digits]
  dsimp only
  rw [Radix.foldl_digits h]

/-- `number` fails at the first character that is no digit, and names it. -/
theorem number_of_not_digit {front rest : List Char} {bad : Char}
    (digits : ∀ c ∈ front, ∃ value, Radix.IsDigit base c value)
    (other : ¬ ∃ value, Radix.IsDigit base bad value) :
    number base (front ++ bad :: rest) = .error (.invalidCharacter bad) := by
  have found : (front ++ bad :: rest).find? (fun c => (Radix.digit? base c).isNone)
      = some bad := by
    rw [List.find?_eq_some_iff_append]
    refine ⟨Radix.isNone_digit?_iff.mpr other, front, rest, rfl, fun c mem => ?_⟩
    rw [Bool.not_eq_true', Bool.eq_false_iff, Ne, Radix.isNone_digit?_iff, not_not]
    exact digits c mem
  rw [number, found]

/-- A run denotes a number, or has a first character that is no digit. -/
theorem denotes_or_not_digit (base : Nat) (filled : run ≠ []) : (∃ n, Radix.Denotes base run n) ∨
    ∃ front bad rest, run = front ++ bad :: rest ∧
      (∀ c ∈ front, ∃ value, Radix.IsDigit base c value) ∧
      ¬ ∃ value, Radix.IsDigit base bad value := by
  cases found : run.find? fun c => (Radix.digit? base c).isNone with
  | none =>
    refine .inl (Radix.exists_denotes filled fun c mem => ?_)
    have digit := List.find?_eq_none.mp found c mem
    rwa [Radix.isNone_digit?_iff, not_not] at digit
  | some bad =>
    obtain ⟨other, front, rest, written, digits⟩ := List.find?_eq_some_iff_append.mp found
    refine .inr ⟨front, bad, rest, written, fun c mem => ?_, Radix.isNone_digit?_iff.mp other⟩
    have digit := digits c mem
    rwa [Bool.not_eq_true', Bool.eq_false_iff, Ne, Radix.isNone_digit?_iff, not_not] at digit

/-- The spec of `pushByte`: a run is read as an octet that goes to the end, or it `Offends`. -/
theorem pushByte_spec (filled : run ≠ []) (buffer : OctetBuffer) :
    (∃ octet : UInt8, Radix.Denotes base run octet.toNat ∧ buffer.size < OctetBuffer.maxSize ∧
      pushByte base buffer run = .ok ⟨buffer.bytes.push octet⟩) ∨
    ∃ fault, Offends base buffer.size run fault ∧ pushByte base buffer run = .error fault := by
  rcases denotes_or_not_digit base filled with
    ⟨n, denotes⟩ | ⟨front, bad, rest, rfl, digits, other⟩
  · by_cases small : n ≤ 255
    case pos =>
      have same : (UInt8.ofNat n).toNat = n := by
        rw [UInt8.toNat_ofNat']
        omega
      have pushes : pushByte base buffer run = buffer.push (UInt8.ofNat n) := by
        rw [pushByte, number_of_denotes denotes]
        exact if_neg (Nat.not_lt.mpr small)
      -- an octet can still be refused, by a buffer that is full
      by_cases room : buffer.size < OctetBuffer.maxSize
      case pos =>
        refine .inl ⟨UInt8.ofNat n, ?_, room, ?_⟩
        · rw [same]
          exact denotes
        · rw [pushes, OctetBuffer.push_of_lt room]
      case neg =>
        have full : OctetBuffer.maxSize ≤ buffer.size := Nat.not_lt.mp room
        refine .inr ⟨.outOfRange, .outOfRange denotes small full, ?_⟩
        rw [pushes, OctetBuffer.push_of_full full]
    case neg =>
      refine .inr ⟨.byteOutOfRange, .byteOutOfRange denotes (Nat.not_le.mp small), ?_⟩
      rw [pushByte, number_of_denotes denotes]
      exact if_pos (Nat.not_le.mp small)
  · refine .inr ⟨.invalidCharacter bad, .invalidCharacter digits other, ?_⟩
    rw [pushByte, number_of_not_digit digits other]

/-- A run of an octet only `Offends` for coming too late. -/
theorem Offends.full {before : Nat} {fault : LiteralFault} (h : Offends base before run fault)
    {n : Nat} (denotes : Radix.Denotes base run n) (small : n ≤ 255) : 65535 ≤ before := by
  cases h with
  | invalidCharacter _ other =>
    exact absurd (denotes.digits _ (List.mem_append_right _ List.mem_cons_self)) other
  | byteOutOfRange denotes' large =>
    cases denotes.unique denotes'
    exact absurd small (Nat.not_le.mpr large)
  | outOfRange _ _ full => exact full

end

/-! ## All runs -/

section

variable {base : Nat} {runs : List (List Char)} {buffer last : OctetBuffer}

/-- Runs with a `FirstOffence` are not `Fitting`: the run is no octet, or there are too many before
it. -/
theorem FirstOffence.not_fitting {fault : LiteralFault} (h : FirstOffence base runs fault) :
    ¬ Fitting base runs := by
  obtain ⟨before, run, after, rfl, -, offends⟩ := h
  intro fitting
  have few := fitting.few
  obtain ⟨n, small, denotes⟩ := fitting.octets run (List.mem_append_right _ List.mem_cons_self)
  have full := offends.full denotes small
  rw [List.length_append, List.length_cons] at few
  omega

theorem exists_denotes_of_forall₂ {octets : Octets}
    (h : List.Forall₂ (fun run octet => Radix.Denotes base run octet.toNat) runs octets) :
    ∀ run ∈ runs, ∃ n ≤ 255, Radix.Denotes base run n := by
  induction h with
  | nil => exact List.forall_mem_nil _
  | @cons run octet runs octets denotes _ ih =>
    have small : octet.toNat ≤ 255 := Nat.le_of_lt_succ octet.toNat_lt
    exact List.forall_mem_cons.mpr ⟨⟨octet.toNat, small, denotes⟩, ih⟩

/-- By induction on the runs, with `pushByte_spec` for each: the octets they denote go to the end,
in order, and there is room for them. -/
theorem octets_of_foldlM_pushByte (filled : ∀ run ∈ runs, run ≠ [])
    (short : buffer.size ≤ OctetBuffer.maxSize)
    (all : runs.foldlM (pushByte base) buffer = .ok last) :
    buffer.size + runs.length ≤ OctetBuffer.maxSize ∧
      ∃ octets, last.octets = buffer.octets ++ octets ∧
        List.Forall₂ (fun run octet => Radix.Denotes base run octet.toNat) runs octets := by
  -- the buffer grows by one octet a run, so it has to be arbitrary
  induction runs generalizing buffer with
  | nil =>
    cases all
    exact ⟨short, [], (List.append_nil _).symm, .nil⟩
  | cons run runs ih =>
    obtain ⟨first, others⟩ := List.forall_mem_cons.mp filled
    obtain ⟨next, pushed, rest⟩ := foldlM_cons_eq_ok_iff.mp all
    rcases pushByte_spec first buffer with ⟨octet, denotes, room, pushes⟩ | ⟨fault, -, fails⟩
    · obtain rfl : _ = next := Except.ok.inj (pushes.symm.trans pushed)
      have grown : OctetBuffer.size ⟨buffer.bytes.push octet⟩ = buffer.size + 1 :=
        Array.size_push octet
      obtain ⟨fits, octets, appended, each⟩ := ih others (by omega) rest
      refine ⟨?_, octet :: octets, ?_, .cons denotes each⟩
      · rw [List.length_cons]
        omega
      · rw [appended, OctetBuffer.octets, OctetBuffer.octets, Array.toList_push]
        simp
    · rw [fails] at pushed
      cases pushed

/-- By induction on the runs: the first one that `Offends` decides the error, if the runs before it
have room. -/
theorem offence_of_foldlM_pushByte (filled : ∀ run ∈ runs, run ≠ []) {fault : LiteralFault}
    (short : buffer.size ≤ OctetBuffer.maxSize)
    (failed : runs.foldlM (pushByte base) buffer = .error fault) :
    ∃ before run after, runs = before ++ run :: after ∧
      buffer.size + before.length ≤ OctetBuffer.maxSize ∧
      (∀ run ∈ before, ∃ n ≤ 255, Radix.Denotes base run n) ∧
      Offends base (buffer.size + before.length) run fault := by
  induction runs generalizing buffer with
  | nil => cases failed
  | cons run runs ih =>
    obtain ⟨first, others⟩ := List.forall_mem_cons.mp filled
    -- a run that is an octet leaves the fault to the others; any other run is the first at fault
    rcases pushByte_spec first buffer with ⟨octet, denotes, room, pushes⟩ | ⟨why, offends, fails⟩
    · rcases foldlM_cons_eq_error_iff.mp failed with fails | ⟨next, pushed, rest⟩
      · rw [pushes] at fails
        cases fails
      · obtain rfl : _ = next := Except.ok.inj (pushes.symm.trans pushed)
        have grown : OctetBuffer.size ⟨buffer.bytes.push octet⟩ = buffer.size + 1 :=
          Array.size_push octet
        obtain ⟨before, bad, after, rfl, fits, octets, offends⟩ := ih others (by omega) rest
        refine ⟨run :: before, bad, after, rfl, ?_, ?_, ?_⟩
        · rw [List.length_cons]
          omega
        · have small : octet.toNat ≤ 255 := Nat.le_of_lt_succ octet.toNat_lt
          exact List.forall_mem_cons.mpr ⟨⟨octet.toNat, small, denotes⟩, octets⟩
        · rw [grown] at offends
          rwa [List.length_cons, Nat.add_comm before.length, ← Nat.add_assoc]
    · rcases foldlM_cons_eq_error_iff.mp failed with fails' | ⟨next, pushed, -⟩
      · obtain rfl : why = fault := Except.error.inj (fails.symm.trans fails')
        exact ⟨[], run, runs, rfl, short, List.forall_mem_nil _, offends⟩
      · rw [fails] at pushed
        cases pushed

end

/-! ## Literals -/

/-- Both letters of `byteRules` are parsed by the same fold of `pushByte`. -/
theorem parse_of_byteRule {letter : Char} {base : Nat} {separators : List Char}
    (rule : (letter, base, separators) ∈ byteRules) {type : String}
    (first : type.toList.head? = some letter) (object text : String) :
    parse object type text
      = match (tokens separators text.toList).foldlM (pushByte base) .empty with
        | .ok last => .ok (.octetString last.octets)
        | .error fault => .error (.literal object text fault) := by
  simp only [byteRules, List.mem_cons, Prod.mk.injEq, List.not_mem_nil, or_false] at rule
  rcases rule with ⟨rfl, rfl, rfl⟩ | ⟨rfl, rfl, rfl⟩
  · rw [parse_of_letter first rfl, Kind.parse, parseBytes]
    cases (tokens [' ', '\t', ','] text.toList).foldlM (pushByte 16) .empty <;> rfl
  · rw [parse_of_letter first rfl, Kind.parse, parseBytes]
    cases (tokens [' ', '\t'] text.toList).foldlM (pushByte 10) .empty <;> rfl

/-- A literal of octets is accepted exactly if its runs are `Fitting`: all of them are numbers of an
octet, and there are no more of them than there may be. Its value has these octets in order; without
a value the `FirstOffence` decides the error. -/
theorem parse_bytes {letter : Char} {base : Nat} {separators : List Char}
    (rule : (letter, base, separators) ∈ byteRules) {type : String}
    (first : type.toList.head? = some letter) (object text : String) :
    ∃ runs, AreRuns separators text.toList runs ∧
      ((∃ value, parse object type text = .ok value) ↔ Fitting base runs) ∧
      (∀ value, parse object type text = .ok value → ∃ octets, value = .octetString octets ∧
        List.Forall₂ (fun run octet => Radix.Denotes base run octet.toNat) runs octets) ∧
      ∀ error, parse object type text = .error error →
        ∃ fault, FirstOffence base runs fault ∧ error = .literal object text fault := by
  have filled (run : List Char) (mem : run ∈ tokens separators text.toList) : run ≠ [] :=
    (mem_tokens_iff.mp mem).filled
  have none : OctetBuffer.empty.size = 0 := rfl
  have start : OctetBuffer.empty.size ≤ OctetBuffer.maxSize := Nat.zero_le _
  refine ⟨tokens separators text.toList, areRuns_iff.mpr rfl, ?_⟩
  rw [parse_of_byteRule rule first object text]
  -- the fold is over an empty buffer, so that places in it count the runs before
  cases all : (tokens separators text.toList).foldlM (pushByte base) .empty with
  | ok last =>
    obtain ⟨few, octets, written, each⟩ := octets_of_foldlM_pushByte filled start all
    rw [none, Nat.zero_add] at few
    have written : last.octets = octets := written
    refine ⟨iff_of_true ⟨_, rfl⟩ ⟨few, exists_denotes_of_forall₂ each⟩, ?_, nofun⟩
    rintro _ ⟨⟩
    exact ⟨last.octets, rfl, written ▸ each⟩
  | error fault =>
    obtain ⟨before, run, after, parts, few, octets, offends⟩ :=
      offence_of_foldlM_pushByte filled start all
    rw [none, Nat.zero_add] at few offends
    have offence : FirstOffence base (tokens separators text.toList) fault :=
      ⟨before, run, after, parts, ⟨few, octets⟩, offends⟩
    refine ⟨iff_of_false nofun offence.not_fitting, nofun, ?_⟩
    rintro _ ⟨⟩
    exact ⟨fault, offence, rfl⟩

/-- The second of three runs is at fault, and the third one would be. -/
theorem parse_bytes_tooLarge :
    ('x', 16, [' ', '\t', ',']) ∈ byteRules ∧ "xx".toList.head? = some 'x' ∧
      parse "1.3" "xx" "0fF,\t100 g" = .error (.literal "1.3" "0fF,\t100 g" .byteOutOfRange) ∧
      ∃ runs, AreRuns [' ', '\t', ','] "0fF,\t100 g".toList runs ∧
        FirstOffence 16 runs .byteOutOfRange := by
  have rule : ('x', 16, [' ', '\t', ',']) ∈ byteRules := by decide
  have first : "xx".toList.head? = some 'x' := rfl
  have failed : parse "1.3" "xx" "0fF,\t100 g"
      = .error (.literal "1.3" "0fF,\t100 g" .byteOutOfRange) := by decide +kernel
  obtain ⟨runs, cut, -, -, faults⟩ := parse_bytes rule first "1.3" "0fF,\t100 g"
  obtain ⟨fault, offence, same⟩ := faults _ failed
  cases same
  exact ⟨rule, first, failed, runs, cut, offence⟩

end SnmpManager.Literal
