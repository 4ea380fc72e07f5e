import Mathlib.Data.List.Forall2
import SnmpManager.Command.Line
import SnmpManager.Proofs.Text.Decimal

/-!
# Flag strings, flag by flag

A flag string is one flag after another, each of them a letter and what belongs to it: nothing, a
number, or the rest of the string. However flags are put together into strings, what is left is
what they say one after another; and a string that is rejected is one of flags up to the place of
the fault, which leaves what these say (`RequestFlag.apply_strings`).

- `RequestFlag`: what one flag says, with the commands that take it (`RequestFlag.takers`), what
  it is written as (`RequestFlag.Spelled`) and what it does (`RequestFlag.apply`).
- `RequestFlag.Written`: a string made of flags.
- `RequestFlag.Rejected`: a text that starts with something that is no flag of the command.
- `Settings.readFlags_spelled`: one flag is read as what it says.
-/

namespace SnmpManager

/-- What one flag says. -/
inductive RequestFlag where
  /-- Objects may come in any order. -/
  | anyOrder
  | includeStart
  | noFallback
  | summary
  | time
  | nonRepeaters (n : UInt32)
  | maxRepetitions (n : UInt32)
  /-- Where the walk ends; without a text, in the next argument. -/
  | bound (text : String)
  deriving DecidableEq, Repr

namespace RequestFlag

/-- The letter of a flag in a string of them. -/
def letter : RequestFlag → Char
  | .anyOrder => 'c'
  | .includeStart => 'i'
  | .noFallback => 'I'
  | .summary => 'p'
  | .time => 't'
  | .nonRepeaters _ => 'n'
  | .maxRepetitions _ => 'r'
  | .bound _ => 'E'

/-- The commands that take a flag. -/
def takers : RequestFlag → List Command
  | .anyOrder | .includeStart | .summary => [.walk, .bulkWalk]
  | .noFallback | .time | .bound _ => [.walk]
  | .nonRepeaters _ | .maxRepetitions _ => [.bulkGet, .bulkWalk]

/-- What is written behind the letter of a flag: a number, the rest of the string, or nothing. -/
def HasArgument : RequestFlag → List Char → Prop
  | .nonRepeaters n, text | .maxRepetitions n, text => Decimal.Denotes text n.toNat
  | .bound place, text => text = place.toList
  | _, text => text = []

/-- What a flag is written as: its `letter` and its argument. -/
def Spelled (flag : RequestFlag) (text : List Char) : Prop :=
  ∃ argument, text = flag.letter :: argument ∧ flag.HasArgument argument

/-- What a flag does to the settings. -/
def apply (settings : Settings) : RequestFlag → Settings
  | .anyOrder => { settings with request.walk.checkIncrease := false }
  | .includeStart => { settings with request.walk.includeStart := true }
  | .noFallback => { settings with request.walk.fallbackOnEmpty := false }
  | .summary => { settings with output.summary := true }
  | .time => { settings with output.time := true }
  | .nonRepeaters n => { settings with request.bulk.nonRepeaters := n }
  | .maxRepetitions n => { settings with request.bulk.maxRepetitions := n }
  | .bound place =>
    { settings with
      request.endOid := some (if place = "" then .nextArgument else .inline place) }

/-- The number of non-repeaters that a flag sets, if it sets them. -/
def nonRepeaters? : RequestFlag → Option UInt32
  | .nonRepeaters n => some n
  | _ => none

/-- The number of repetitions that a flag sets, if it sets them. -/
def maxRepetitions? : RequestFlag → Option UInt32
  | .maxRepetitions n => some n
  | _ => none

/-- What flags leave: each of them does what `apply` says, and of the numbers the last one
counts. -/
structure Leaves (flags : List RequestFlag) (before after : Settings) : Prop where
  each : after = flags.foldl apply before
  nonRepeaters : after.request.bulk.nonRepeaters
    = (flags.filterMap nonRepeaters?).getLast?.getD before.request.bulk.nonRepeaters
  maxRepetitions : after.request.bulk.maxRepetitions
    = (flags.filterMap maxRepetitions?).getLast?.getD before.request.bulk.maxRepetitions

/-- A string made of flags that `command` takes. A `bound` takes the rest of the string, so it is
the last. -/
structure Written (command : Command) (string : List Char) (flags : List RequestFlag) : Prop where
  spelled : ∃ spellings, List.Forall₂ Spelled flags spellings ∧ string = spellings.flatten
  taken : ∀ flag ∈ flags, command ∈ flag.takers
  boundLast : ∀ flag ∈ flags.dropLast, ∀ place, flag ≠ .bound place

/-- What is written behind a letter that wants a number, and is no number of 32 bits. -/
inductive BadNumber : List Char → CountFault → Prop
  | missing : BadNumber [] .missing
  | negative {number : List Char} (digits : ∀ c ∈ number, c.isDigit = true) :
      BadNumber ('-' :: number) .negative
  | tooLarge {number : List Char} {n : Nat} (denotes : Decimal.Denotes number n)
      (large : UInt32.size ≤ n) : BadNumber number .tooLarge

/-- A text that starts with what `command` rejects: a letter that is none of its flags, or one of
its letters with a `BadNumber`, which is taken as far as it goes. -/
inductive Rejected (command : Command) : List Char → UsageFault → Prop
  | letter {c : Char} {rest : List Char}
      (foreign : ∀ flag : RequestFlag, flag.letter = c → command ∉ flag.takers) :
      Rejected command (c :: rest) (.invalidFlag 'C' c)
  | number {flag : RequestFlag} {number rest : List Char} {fault : CountFault}
      (counts : flag.letter = 'n' ∨ flag.letter = 'r') (taken : command ∈ flag.takers)
      (bad : BadNumber number fault) (ends : Decimal.EndsDigits rest)
      (unsigned : number = [] → rest.head? ≠ some '-') :
      Rejected command (flag.letter :: (number ++ rest))
        (.invalidFlagArgument flag.letter fault)

end RequestFlag

/-! ## Letters -/

/-- `acceptsRequestFlag` is about letters and `takers` about flags; they agree. -/
theorem Command.acceptsRequestFlag_iff {command : Command} {c : Char} :
    command.acceptsRequestFlag c = true ↔
      ∃ flag : RequestFlag, flag.letter = c ∧ command ∈ flag.takers := by
  constructor
  · intro h
    unfold acceptsRequestFlag at h
    split at h
    case h_1 => exact ⟨.anyOrder, rfl, by simpa [RequestFlag.takers] using h⟩
    case h_2 => exact ⟨.includeStart, rfl, by simpa [RequestFlag.takers] using h⟩
    case h_3 => exact ⟨.summary, rfl, by simpa [RequestFlag.takers] using h⟩
    case h_4 => exact ⟨.nonRepeaters 0, rfl, by simpa [RequestFlag.takers] using h⟩
    case h_5 => exact ⟨.maxRepetitions 0, rfl, by simpa [RequestFlag.takers] using h⟩
    case h_6 => exact ⟨.time, rfl, by simpa [RequestFlag.takers] using h⟩
    case h_7 => exact ⟨.bound "", rfl, by simpa [RequestFlag.takers] using h⟩
    case h_8 => exact ⟨.noFallback, rfl, by simpa [RequestFlag.takers] using h⟩
    case h_9 => cases h
  · rintro ⟨flag, rfl, taken⟩
    cases flag <;> simpa [acceptsRequestFlag, RequestFlag.letter, RequestFlag.takers] using taken

theorem RequestFlag.isDigit_letter (flag : RequestFlag) : flag.letter.isDigit = false := by
  cases flag <;> rfl

namespace Settings

variable {command : Command} {settings : Settings}

/-- What `readFlags` does with a letter while no number is open. -/
theorem readFlags_cons (command : Command) (settings : Settings) (c : Char) (rest : List Char) :
    readFlags command settings none (c :: rest)
      = if !command.acceptsRequestFlag c then (.error (.invalidFlag 'C' c), settings)
        else if c = 'E' then (.ok (), settings.setEnd rest)
        else if c = 'n' ∨ c = 'r' then readFlags command settings (some (c, [])) rest
        else readFlags command (settings.setFlag c) none rest := by
  rw [readFlags]
  rfl

/-! ## Numbers -/

/-- Where an open number ends, `close` takes it over or rejects it, and the rest is read after
that. -/
theorem readFlags_of_ends {waiting : OpenCount} {rest : List Char}
    (ends : ∀ c, rest.head? = some c → belongs waiting c = false) :
    readFlags command settings waiting rest = match settings.close waiting with
      | .error fault => (.error fault, settings)
      | .ok settings => readFlags command settings none rest := by
  cases rest with
  | nil =>
    rw [readFlags]
    cases settings.close waiting <;> rfl
  | cons c rest =>
    rw [readFlags, ends c rfl]
    cases settings.close waiting <;> rfl

/-- Digits are added by `readFlags` to an open number, whatever it has so far. -/
theorem readFlags_digits {flag : Char} {digits : List Char}
    (h : ∀ c ∈ digits, c.isDigit = true) (front rest : List Char) :
    readFlags command settings (some (flag, front)) (digits ++ rest)
      = readFlags command settings (some (flag, front ++ digits)) rest := by
  induction digits generalizing front with
  | nil => rw [List.nil_append, List.append_nil]
  | cons c digits ih =>
    obtain ⟨first, others⟩ := List.forall_mem_cons.mp h
    have belongs : belongs (some (flag, front)) c = true := by
      rw [Settings.belongs, first, Bool.true_or]
    rw [List.cons_append, readFlags, belongs, if_pos rfl, Option.map_some]
    rw [ih others, List.append_assoc]
    rfl

/-- What stands behind a letter that wants a number is taken as far as it goes: digits, with one
minus sign in front. That text is what `count` judges. -/
theorem readFlags_number (flag : Char) {number rest : List Char}
    (shape : (∀ c ∈ number, c.isDigit = true) ∨
      ∃ digits, number = '-' :: digits ∧ ∀ c ∈ digits, c.isDigit = true)
    (ends : Decimal.EndsDigits rest) (unsigned : number = [] → rest.head? ≠ some '-') :
    readFlags command settings (some (flag, [])) (number ++ rest) = match count number with
      | .error fault => (.error (.invalidFlagArgument flag fault), settings)
      | .ok n => readFlags command (settings.setCount flag n) none rest := by
  have taken : readFlags command settings (some (flag, [])) (number ++ rest)
      = readFlags command settings (some (flag, number)) rest := by
    rcases shape with digits | ⟨digits, rfl, decimal⟩
    · exact readFlags_digits digits [] rest
    · -- the sign belongs to the number, since nothing stands before it
      rw [List.cons_append, readFlags, if_pos (by rfl)]
      exact readFlags_digits decimal ['-'] rest
  have ends : ∀ c, rest.head? = some c → belongs (some (flag, number)) c = false := by
    intro c first
    obtain ⟨more, rfl⟩ := List.head?_eq_some_iff.mp first
    rw [belongs, ends c more rfl, Bool.false_or]
    cases number with
    | nil => simpa using unsigned rfl
    | cons => rfl
  rw [taken, readFlags_of_ends ends, close]
  cases count number <;> rfl

theorem count_of_denotes {digits : List Char} {n : UInt32}
    (h : Decimal.Denotes digits n.toNat) : count digits = .ok n := by
  have small : n.toNat < UInt32.size := n.toNat_lt
  obtain ⟨c, rest, rfl, digit⟩ := h.exists_digit
  have number := Decimal.nat?_eq_some_iff.mpr h
  rw [count]
  · simp only [number, if_pos small, UInt32.ofNat_toNat]
  · exact nofun
  · rintro _ ⟨⟩
    exact absurd digit (by decide)

/-- `count` finds the fault that `BadNumber` names. -/
theorem count_of_badNumber {number : List Char} {fault : CountFault}
    (h : RequestFlag.BadNumber number fault) : count number = .error fault := by
  cases h with
  | missing => rfl
  | negative _ => rfl
  | tooLarge denotes large =>
    obtain ⟨c, rest, rfl, digit⟩ := denotes.exists_digit
    have number := Decimal.nat?_eq_some_iff.mpr denotes
    rw [count]
    · simp only [number]
      exact if_neg (Nat.not_lt.mpr large)
    · exact nofun
    · rintro _ ⟨⟩
      exact absurd digit (by decide)

/-- `readFlags_number` for a number of 32 bits. -/
theorem readFlags_of_denotes (flag : Char) {digits rest : List Char} {n : UInt32}
    (h : Decimal.Denotes digits n.toNat) (ends : Decimal.EndsDigits rest) :
    readFlags command settings (some (flag, [])) (digits ++ rest)
      = readFlags command (settings.setCount flag n) none rest := by
  rw [readFlags_number flag (.inl h.digits) ends fun none => absurd none h.filled,
    count_of_denotes h]

/-- `readFlags_number` for a `BadNumber`: the settings are left alone. -/
theorem readFlags_of_badNumber (flag : Char) {number rest : List Char} {fault : CountFault}
    (h : RequestFlag.BadNumber number fault) (ends : Decimal.EndsDigits rest)
    (unsigned : number = [] → rest.head? ≠ some '-') :
    readFlags command settings (some (flag, [])) (number ++ rest)
      = (.error (.invalidFlagArgument flag fault), settings) := by
  have shape : (∀ c ∈ number, c.isDigit = true) ∨
      ∃ digits, number = '-' :: digits ∧ ∀ c ∈ digits, c.isDigit = true := by
    cases h with
    | missing => exact .inl (List.forall_mem_nil _)
    | negative digits => exact .inr ⟨_, rfl, digits⟩
    | tooLarge denotes _ => exact .inl denotes.digits
  rw [readFlags_number flag shape ends unsigned, count_of_badNumber h]

/-- A text starts with a number of 32 bits or with a `BadNumber`, which may be nothing at all. -/
theorem exists_number (text : List Char) : ∃ number rest, text = number ++ rest ∧
    Decimal.EndsDigits rest ∧ (number = [] → rest.head? ≠ some '-') ∧
    ((∃ n : UInt32, Decimal.Denotes number n.toNat) ∨
      ∃ fault, RequestFlag.BadNumber number fault) := by
  by_cases sign : text.head? = some '-'
  case pos =>
    obtain ⟨behind, rfl⟩ := List.head?_eq_some_iff.mp sign
    obtain ⟨digits, rest, rfl, decimal, ends⟩ := Decimal.exists_digits behind
    exact ⟨'-' :: digits, rest, rfl, ends, nofun, .inr ⟨_, .negative decimal⟩⟩
  case neg =>
    obtain ⟨digits, rest, rfl, decimal, ends⟩ := Decimal.exists_digits text
    refine ⟨digits, rest, rfl, ends, ?_, ?_⟩
    · rintro rfl
      exact sign
    · by_cases filled : digits = []
      case pos =>
        subst filled
        exact .inr ⟨_, .missing⟩
      case neg =>
        have denotes : Decimal.Denotes digits (Nat.ofDigitChars 10 digits 0) :=
          ⟨filled, decimal, rfl⟩
        by_cases small : Nat.ofDigitChars 10 digits 0 < UInt32.size
        case pos =>
          refine .inl ⟨UInt32.ofNat (Nat.ofDigitChars 10 digits 0), ?_⟩
          rwa [UInt32.toNat_ofNat_of_lt' small]
        case neg => exact .inr ⟨_, .tooLarge denotes (Nat.not_lt.mp small)⟩

/-! ## Flags -/

variable {flag : RequestFlag}

/-- The step lemma: one flag that stands before others is read as what it says, and the rest after
it. -/
theorem readFlags_spelled {spelling rest : List Char} (h : flag.Spelled spelling)
    (taken : command ∈ flag.takers) (inside : ∀ place, flag ≠ .bound place)
    (ends : flag.letter = 'n' ∨ flag.letter = 'r' → Decimal.EndsDigits rest) :
    readFlags command settings none (spelling ++ rest)
      = readFlags command (flag.apply settings) none rest := by
  obtain ⟨argument, rfl, given⟩ := h
  have accepted : command.acceptsRequestFlag flag.letter = true :=
    Command.acceptsRequestFlag_iff.mpr ⟨flag, rfl, taken⟩
  rw [List.cons_append, readFlags_cons, accepted]
  cases flag with
  | nonRepeaters n => exact readFlags_of_denotes 'n' given (ends (.inl rfl))
  | maxRepetitions n => exact readFlags_of_denotes 'r' given (ends (.inr rfl))
  | bound place => exact absurd rfl (inside place)
  | anyOrder | includeStart | noFallback | summary | time =>
    cases given
    rfl

/-- A `bound` is read with all the rest of the string. -/
theorem readFlags_bound {spelling : List Char} {place : String}
    (h : (RequestFlag.bound place).Spelled spelling)
    (taken : command ∈ (RequestFlag.bound place).takers) :
    readFlags command settings none spelling
      = (.ok (), (RequestFlag.bound place).apply settings) := by
  obtain ⟨_, rfl, rfl⟩ := h
  have accepted : command.acceptsRequestFlag 'E' = true :=
    Command.acceptsRequestFlag_iff.mpr ⟨.bound place, rfl, taken⟩
  have sets : settings.setEnd place.toList = (RequestFlag.bound place).apply settings := by
    by_cases none : place = ""
    case pos =>
      subst none
      rfl
    case neg =>
      have filled : place.toList ≠ [] := by simpa using none
      rw [setEnd, RequestFlag.apply, if_neg filled, if_neg none, String.ofList_toList]
  show readFlags command settings none ('E' :: place.toList) = _
  rw [readFlags_cons, accepted, ← sets]
  rfl

/-- What is `Rejected` changes nothing. -/
theorem readFlags_of_rejected {string : List Char} {fault : UsageFault}
    (h : RequestFlag.Rejected command string fault) :
    readFlags command settings none string = (.error fault, settings) := by
  cases h with
  | @letter c rest foreign =>
    have refused : command.acceptsRequestFlag c = false := by
      rw [Bool.eq_false_iff, Ne, Command.acceptsRequestFlag_iff]
      rintro ⟨flag, same, taken⟩
      exact foreign flag same taken
    rw [readFlags_cons, refused]
    rfl
  | @number flag number rest fault counts taken bad ends unsigned =>
    have accepted : command.acceptsRequestFlag flag.letter = true :=
      Command.acceptsRequestFlag_iff.mpr ⟨flag, rfl, taken⟩
    have other : flag.letter ≠ 'E' := by
      rcases counts with same | same <;> rw [same] <;> decide
    rw [readFlags_cons, accepted, if_neg (by decide), if_neg other, if_pos counts]
    exact readFlags_of_badNumber flag.letter bad ends unsigned

end Settings

namespace RequestFlag

variable {command : Command}

/-- A string starts with a flag, or ends with a `bound`, or is `Rejected` at its start; this is what
a string is taken apart by. -/
theorem spelled_or_rejected (command : Command) (c : Char) (text : List Char) :
    (∃ flag spelling rest, c :: text = spelling ++ rest ∧ spelling ≠ [] ∧ Spelled flag spelling ∧
      command ∈ flag.takers ∧ (∀ place, flag ≠ .bound place) ∧
      (flag.letter = 'n' ∨ flag.letter = 'r' → Decimal.EndsDigits rest)) ∨
    (∃ place, Spelled (.bound place) (c :: text) ∧ command ∈ (bound place).takers) ∨
    ∃ fault, Rejected command (c :: text) fault := by
  -- only the letter decides whether the command takes the flag; its argument is read either way
  by_cases known : ∃ flag : RequestFlag, flag.letter = c ∧ command ∈ flag.takers
  case neg => exact .inr (.inr ⟨_, .letter fun flag same taken => known ⟨flag, same, taken⟩⟩)
  case pos =>
    obtain ⟨flag, rfl, taken⟩ := known
    obtain ⟨number, rest, rfl, ends, unsigned, read⟩ := Settings.exists_number text
    cases flag with
    -- the `n` of the flag that was found is not the number in the text
    | nonRepeaters n =>
      rcases read with ⟨m, denotes⟩ | ⟨fault, bad⟩
      · exact .inl ⟨.nonRepeaters m, 'n' :: number, rest, rfl, List.cons_ne_nil _ _,
          ⟨number, rfl, denotes⟩, taken, nofun, fun _ => ends⟩
      · exact .inr (.inr ⟨_, .number (.inl rfl) taken bad ends unsigned⟩)
    | maxRepetitions n =>
      rcases read with ⟨m, denotes⟩ | ⟨fault, bad⟩
      · exact .inl ⟨.maxRepetitions m, 'r' :: number, rest, rfl, List.cons_ne_nil _ _,
          ⟨number, rfl, denotes⟩, taken, nofun, fun _ => ends⟩
      · exact .inr (.inr ⟨_, .number (.inr rfl) taken bad ends unsigned⟩)
    | bound place =>
      refine .inr (.inl ⟨String.ofList (number ++ rest), ⟨number ++ rest, rfl, ?_⟩, taken⟩)
      exact String.toList_ofList.symm
    | anyOrder | includeStart | noFallback | summary | time =>
      exact .inl ⟨_, [_], number ++ rest, rfl, List.cons_ne_nil _ _, ⟨[], rfl, rfl⟩, taken, nofun,
        fun counts => absurd counts (by decide)⟩

/-! ## Strings -/

/-- No flag starts with a digit, so what is `Spelled` behind a number ends it. -/
theorem endsDigits_flatten {flags : List RequestFlag} {spellings : List (List Char)}
    (h : List.Forall₂ Spelled flags spellings) : Decimal.EndsDigits spellings.flatten := by
  cases h with
  | nil => exact Decimal.endsDigits_nil
  | @cons flag _ _ _ first _ =>
    obtain ⟨argument, rfl, -⟩ := first
    exact Decimal.endsDigits_cons flag.isDigit_letter _

theorem written_nil (command : Command) : Written command [] [] where
  spelled := ⟨[], .nil, rfl⟩
  taken := List.forall_mem_nil _
  boundLast := List.forall_mem_nil _

/-- A flag other than a `bound` can be put in front of any string of flags. -/
theorem Written.cons {flag : RequestFlag} {spelling rest : List Char} {flags : List RequestFlag}
    (spelled : flag.Spelled spelling) (taken : command ∈ flag.takers)
    (inside : ∀ place, flag ≠ .bound place) (h : Written command rest flags) :
    Written command (spelling ++ rest) (flag :: flags) where
  spelled := by
    obtain ⟨spellings, each, rfl⟩ := h.spelled
    exact ⟨spelling :: spellings, .cons spelled each, rfl⟩
  taken := List.forall_mem_cons.mpr ⟨taken, h.taken⟩
  boundLast := by
    cases flags with
    | nil => exact List.forall_mem_nil _
    | cons next flags => exact List.forall_mem_cons.mpr ⟨inside, h.boundLast⟩

/-- By induction on the flags, with `readFlags_spelled` for the step: a string of flags is read as
what they say one after another. -/
theorem readFlags_of_written {string : List Char} {flags : List RequestFlag}
    (h : Written command string flags) (settings : Settings) :
    Settings.readFlags command settings none string = (.ok (), flags.foldl apply settings) := by
  obtain ⟨⟨spellings, each, rfl⟩, taken, boundLast⟩ := h
  induction each generalizing settings with
  | nil => rfl
  | @cons flag spelling flags spellings first others ih =>
    obtain ⟨takenFirst, takenOthers⟩ := List.forall_mem_cons.mp taken
    rw [List.flatten_cons, List.foldl_cons]
    -- a bound takes all that is left of the string, so nothing may come after it
    by_cases last : ∃ place, flag = .bound place
    case pos =>
      obtain ⟨place, rfl⟩ := last
      cases others with
      | nil =>
        rw [List.flatten_nil, List.append_nil]
        exact Settings.readFlags_bound first takenFirst
      | cons _ _ => exact absurd rfl (boundLast (.bound place) List.mem_cons_self place)
    case neg =>
      have inside : ∀ place, flag ≠ .bound place := fun place same => last ⟨place, same⟩
      have boundLast : ∀ flag ∈ flags.dropLast, ∀ place, flag ≠ .bound place := by
        cases flags with
        | nil => exact List.forall_mem_nil _
        | cons next flags => exact (List.forall_mem_cons.mp boundLast).2
      rw [Settings.readFlags_spelled first takenFirst inside fun _ => endsDigits_flatten others]
      exact ih (flag.apply settings) takenOthers boundLast

/-- By induction on the length of the string, with `spelled_or_rejected` at each flag: a string that
is rejected is one of flags up to what is rejected, and leaves what these say. -/
theorem rejected_of_readFlags {string : List Char} {fault : UsageFault} {settings after : Settings}
    (h : Settings.readFlags command settings none string = (.error fault, after)) :
    ∃ flags front rest, string = front ++ rest ∧ Written command front flags ∧
      Rejected command rest fault ∧ after = flags.foldl apply settings := by
  -- on the length of the string, which is shorter behind its first flag
  induction size : string.length using Nat.strongRecOn generalizing string settings with
  | ind n ih =>
    cases string with
    | nil => cases h
    | cons c text =>
      rcases spelled_or_rejected command c text with
        ⟨flag, spelling, rest, written, filled, spelled, taken, inside, ends⟩ |
        ⟨place, spelled, taken⟩ | ⟨why, rejected⟩
      · rw [written, Settings.readFlags_spelled spelled taken inside ends] at h
        have shorter : rest.length < n := by
          rw [← size, written, List.length_append]
          exact Nat.lt_add_of_pos_left (List.length_pos_iff.mpr filled)
        obtain ⟨flags, front, bad, rfl, front_written, rejected, left⟩ :=
          ih rest.length shorter h rfl
        refine ⟨flag :: flags, spelling ++ front, bad, ?_, ?_, rejected, left⟩
        · rw [written, List.append_assoc]
        · exact Written.cons spelled taken inside front_written
      · rw [Settings.readFlags_bound spelled taken] at h
        cases h
      · rw [Settings.readFlags_of_rejected rejected] at h
        cases h
        exact ⟨[], [], c :: text, rfl, written_nil command, rejected, rfl⟩

/-! ## What flags leave -/

/-- What `pick` finds in the last flag that sets it is what is left, given that each flag sets it or
leaves it alone. -/
theorem last_of_foldl (pick : RequestFlag → Option UInt32) (read : Settings → UInt32)
    (sets : ∀ settings flag, read (apply settings flag) = (pick flag).getD (read settings))
    (flags : List RequestFlag) (settings : Settings) :
    read (flags.foldl apply settings)
      = (flags.filterMap pick).getLast?.getD (read settings) := by
  induction flags generalizing settings with
  | nil => rfl
  | cons flag flags ih =>
    rw [List.foldl_cons, ih, sets, List.filterMap_cons]
    -- a flag that sets nothing drops out of the list; one that does is the last unless one follows
    cases pick flag with
    | none => rfl
    | some n => rw [List.getLast?_cons, Option.getD_some, Option.getD_some]

/-- What is left by doing one flag after another is as `Leaves` says, since each number is set by
its own flag only. -/
theorem leaves_foldl (flags : List RequestFlag) (settings : Settings) :
    Leaves flags settings (flags.foldl apply settings) where
  each := rfl
  nonRepeaters := by
    refine last_of_foldl nonRepeaters? (·.request.bulk.nonRepeaters) ?_ flags settings
    intro settings flag
    cases flag <;> rfl
  maxRepetitions := by
    refine last_of_foldl maxRepetitions? (·.request.bulk.maxRepetitions) ?_ flags settings
    intro settings flag
    cases flag <;> rfl

/-- `readFlags_of_written` for several strings, which are read as what all the flags say one after
another. -/
theorem applyAll_of_written {strings : List String} {flagss : List (List RequestFlag)}
    (h : List.Forall₂ (fun string flags => Written command string.toList flags) strings flagss)
    (settings : Settings) :
    Invocation.applyAll (Settings.applyFlags command) settings strings
      = .ok (flagss.flatten.foldl apply settings) := by
  induction h generalizing settings with
  | nil => rfl
  | @cons string flags strings flagss first _ ih =>
    rw [Invocation.applyAll, Settings.applyFlags, readFlags_of_written first]
    rw [List.flatten_cons, List.foldl_append, ← ih]

/-- However the flags of a command are put together into strings, the strings are accepted and leave
what the flags say one after another, as `Leaves` has it. A string that is rejected leaves what the
flags say that stand before what is `Rejected`. -/
theorem apply_strings (command : Command) (settings : Settings) :
    (∀ strings flagss,
      List.Forall₂ (fun string flags => Written command string.toList flags) strings flagss →
        ∃ after, Invocation.applyAll (Settings.applyFlags command) settings strings = .ok after ∧
          Leaves flagss.flatten settings after) ∧
    ∀ (string : String) fault after,
      Settings.applyFlags command settings string.toList = (.error fault, after) →
        ∃ flags front rest, string.toList = front ++ rest ∧ Written command front flags ∧
          Rejected command rest fault ∧ Leaves flags settings after := by
  constructor
  · intro strings flagss written
    exact ⟨_, applyAll_of_written written settings, leaves_foldl flagss.flatten settings⟩
  · intro string fault after failed
    obtain ⟨flags, front, rest, cut, written, rejected, rfl⟩ := rejected_of_readFlags failed
    exact ⟨flags, front, rest, cut, written, rejected, leaves_foldl flags settings⟩

/-- Two strings, the second of which sets a number again, and a string that is rejected for its
second number. -/
theorem apply_strings_bulkWalk :
    let flagss : List (List RequestFlag) :=
      [[.includeStart, .nonRepeaters 7, .summary], [.maxRepetitions 20, .nonRepeaters 3]]
    let left : Settings :=
      { request := { bulk := { nonRepeaters := 5 } }, output := { summary := true } }
    List.Forall₂ (fun string flags => Written .bulkWalk string.toList flags) ["in007p", "r20n3"]
        flagss ∧
      (∃ after, Invocation.applyAll (Settings.applyFlags .bulkWalk) {} ["in007p", "r20n3"]
        = .ok after ∧ Leaves flagss.flatten {} after) ∧
      Settings.applyFlags .bulkWalk {} "pn5r-4c".toList
        = (.error (.invalidFlagArgument 'r' .negative), left) ∧
      ∃ flags front rest, "pn5r-4c".toList = front ++ rest ∧ Written .bulkWalk front flags ∧
        Rejected .bulkWalk rest (.invalidFlagArgument 'r' .negative) ∧ Leaves flags {} left := by
  intro flagss left
  have seven : Decimal.Denotes ['0', '0', '7'] (7 : UInt32).toNat := by decide
  have twenty : Decimal.Denotes ['2', '0'] (20 : UInt32).toNat := by decide
  have three : Decimal.Denotes ['3'] (3 : UInt32).toNat := by decide
  have first : Written .bulkWalk (['i'] ++ (['n', '0', '0', '7'] ++ (['p'] ++ [])))
      [.includeStart, .nonRepeaters 7, .summary] :=
    .cons ⟨[], rfl, rfl⟩ (by decide) nofun <|
      .cons ⟨_, rfl, seven⟩ (by decide) nofun <|
        .cons ⟨[], rfl, rfl⟩ (by decide) nofun <| written_nil _
  have second : Written .bulkWalk (['r', '2', '0'] ++ (['n', '3'] ++ []))
      [.maxRepetitions 20, .nonRepeaters 3] :=
    .cons ⟨_, rfl, twenty⟩ (by decide) nofun <|
      .cons ⟨_, rfl, three⟩ (by decide) nofun <| written_nil _
  have written : List.Forall₂ (fun string flags => Written .bulkWalk string.toList flags)
      ["in007p", "r20n3"] flagss := .cons first (.cons second .nil)
  have failed : Settings.applyFlags .bulkWalk {} "pn5r-4c".toList
      = (.error (.invalidFlagArgument 'r' .negative), left) := by decide
  obtain ⟨accepted, rejected⟩ := apply_strings .bulkWalk {}
  exact ⟨written, accepted _ _ written, failed, rejected "pn5r-4c" _ left failed⟩

end RequestFlag

end SnmpManager
