import Mathlib.Data.List.Basic
import SnmpManager.Literal.Basic
import SnmpManager.Proofs.Text.Decimal

/-!
# The runs of a literal

A literal of several parts is cut at its separators, and what is left between them are its maximal
runs of other characters.

- `Literal.IsRun`: a maximal run, by where it stands in the text.
- `Literal.mem_tokens_iff`: the tokens of a text are its runs.
- `Literal.AreRuns`: all maximal runs of a text, in order; so are its tokens
  (`Literal.areRuns_iff`).
- `Literal.number_ten_eq_ok_iff`: a token is read as the number that it denotes.
-/

namespace SnmpManager.Literal

/-- Characters of a text that are no separators, with separators around them or the ends. -/
structure IsRun (separators text run : List Char) : Prop where
  filled : run ≠ []
  plain : ∀ c ∈ run, c ∉ separators
  maximal : ∃ before after, text = before ++ (run ++ after) ∧
    (∀ c, before.getLast? = some c → c ∈ separators) ∧ ∀ c, after.head? = some c → c ∈ separators

/-! ## Cutting at separators -/

section

variable {separates : Char → Bool}

/-- A text without separators is left whole; any other is cut at the first one. -/
theorem plain_or_eq_append (separates : Char → Bool) (text : List Char) :
    (∀ c ∈ text, separates c = false) ∨
      ∃ part sep rest, text = part ++ sep :: rest ∧ (∀ c ∈ part, separates c = false) ∧
        separates sep = true := by
  induction text with
  | nil => exact .inl fun c mem => absurd mem List.not_mem_nil
  | cons c text ih =>
    cases start : separates c with
    | true => exact .inr ⟨[], c, text, rfl, fun c mem => absurd mem List.not_mem_nil, start⟩
    | false =>
      rcases ih with plain | ⟨part, sep, rest, rfl, plain, cut⟩
      · exact .inl (List.forall_mem_cons.mpr ⟨start, plain⟩)
      · exact .inr ⟨c :: part, sep, rest, rfl, List.forall_mem_cons.mpr ⟨start, plain⟩, cut⟩

/-- A part that `splitOnP` yields stands between separators, or at an end of the text. By induction
on the length, with a cut at the first separator. -/
theorem exists_around_of_mem_splitOnP {text part : List Char} (h : part ∈ text.splitOnP separates) :
    (∀ c ∈ part, separates c = false) ∧ ∃ before after, text = before ++ (part ++ after) ∧
      (∀ c, before.getLast? = some c → separates c = true) ∧
      ∀ c, after.head? = some c → separates c = true := by
  -- on the length of the text: the part is the first one, or stands after the first separator
  induction size : text.length using Nat.strongRecOn generalizing text with
  | ind n ih =>
    rcases plain_or_eq_append separates text with plain | ⟨first, sep, rest, rfl, plain, cut⟩
    · rw [List.splitOnP_eq_singleton plain, List.mem_singleton] at h
      subst h
      exact ⟨plain, [], [], (List.append_nil _).symm, fun c impossible => (by cases impossible),
        fun c impossible => (by cases impossible)⟩
    · rw [List.splitOnP_append_cons_of_forall_mem plain sep cut, List.mem_cons] at h
      rcases h with rfl | later
      · refine ⟨plain, [], sep :: rest, rfl, fun c impossible => (by cases impossible), ?_⟩
        rintro c ⟨⟩
        exact cut
      · have shorter : rest.length < n := by
          rw [← size, List.length_append, List.length_cons]
          omega
        obtain ⟨inside, before, after, rfl, left, right⟩ := ih rest.length shorter later rfl
        refine ⟨inside, first ++ sep :: before, after, by simp, fun c last => ?_, right⟩
        -- what stands before the part ends in the separator of the cut, or where it ended in the
        -- rest
        rcases List.eq_nil_or_concat before with rfl | ⟨start, c', rfl⟩
        · obtain rfl : sep = c := by simpa using last
          exact cut
        · rw [List.concat_eq_append, ← List.cons_append, ← List.append_assoc,
            List.getLast?_concat] at last
          cases last
          exact left c (by simp)

/-- What stands between separators is a part that `splitOnP` yields. -/
theorem mem_splitOnP_of_around {before part after : List Char}
    (inside : ∀ c ∈ part, separates c = false)
    (left : ∀ c, before.getLast? = some c → separates c = true)
    (right : ∀ c, after.head? = some c → separates c = true) :
    part ∈ (before ++ (part ++ after)).splitOnP separates := by
  have first : part ∈ (part ++ after).splitOnP separates := by
    cases after with
    | nil =>
      rw [List.append_nil, List.splitOnP_eq_singleton inside]
      exact List.mem_singleton_self part
    | cons c after =>
      rw [List.splitOnP_append_cons_of_forall_mem inside c (right c rfl)]
      exact List.mem_cons_self
  rcases List.eq_nil_or_concat before with rfl | ⟨start, sep, rfl⟩
  · exact first
  · have cut : separates sep = true := left sep (by simp)
    rw [List.concat_eq_append, List.append_assoc, List.singleton_append,
      List.splitOnP_append_cons start _ cut]
    exact List.mem_append_right _ first

end

/-- `tokens` finds what `IsRun` in a text, and nothing else. -/
theorem mem_tokens_iff {separators text token : List Char} :
    token ∈ tokens separators text ↔ IsRun separators text token := by
  have separates {c : Char} : separators.contains c = true ↔ c ∈ separators :=
    List.contains_iff_mem
  have plain {c : Char} : separators.contains c = false ↔ c ∉ separators := by
    rw [Bool.eq_false_iff, Ne, separates]
  rw [tokens, List.mem_filter, decide_eq_true_iff]
  constructor
  · rintro ⟨mem, filled⟩
    obtain ⟨inside, before, after, written, left, right⟩ := exists_around_of_mem_splitOnP mem
    simp only [separates, plain] at inside left right
    exact ⟨filled, inside, before, after, written, left, right⟩
  · rintro ⟨filled, inside, before, after, rfl, left, right⟩
    have inside (c : Char) (mem : c ∈ token) := plain.mpr (inside c mem)
    simp only [← separates] at left right
    exact ⟨mem_splitOnP_of_around inside left right, filled⟩

/-! ## All runs in order -/

/-- The runs of a text are what is left of it, in order, when each separator is left out, and each
run is taken as far as it goes. -/
inductive AreRuns (separators : List Char) : List Char → List (List Char) → Prop
  | nil : AreRuns separators [] []
  | separator {c : Char} {text : List Char} {runs : List (List Char)} (mem : c ∈ separators)
      (rest : AreRuns separators text runs) : AreRuns separators (c :: text) runs
  | run {run text : List Char} {runs : List (List Char)} (filled : run ≠ [])
      (plain : ∀ c ∈ run, c ∉ separators) (ends : ∀ c, text.head? = some c → c ∈ separators)
      (rest : AreRuns separators text runs) : AreRuns separators (run ++ text) (run :: runs)

section

variable {separators text : List Char}

theorem tokens_cons_separator {c : Char} (mem : c ∈ separators) (text : List Char) :
    tokens separators (c :: text) = tokens separators text := by
  have separates : separators.contains c = true := List.contains_iff_mem.mpr mem
  rw [tokens, ← List.nil_append (c :: text),
    List.splitOnP_append_cons_of_forall_mem (List.forall_mem_nil _) c separates]
  rfl

/-- `tokens` goes on behind a run, which is cut off whole. -/
theorem tokens_append_run {run : List Char} (filled : run ≠ [])
    (plain : ∀ c ∈ run, c ∉ separators) (ends : ∀ c, text.head? = some c → c ∈ separators) :
    tokens separators (run ++ text) = run :: tokens separators text := by
  have inside : ∀ c ∈ run, separators.contains c = false := by simpa using plain
  have kept (others : List (List Char)) :
      (run :: others).filter (· ≠ []) = run :: others.filter (· ≠ []) :=
    List.filter_cons_of_pos (decide_eq_true filled)
  cases text with
  | nil =>
    rw [List.append_nil, tokens, List.splitOnP_eq_singleton inside, kept]
    rfl
  | cons c text =>
    have mem : c ∈ separators := ends c rfl
    have separates : separators.contains c = true := List.contains_iff_mem.mpr mem
    rw [tokens_cons_separator mem, tokens,
      List.splitOnP_append_cons_of_forall_mem inside c separates, kept]
    rfl

/-- By induction on how the runs are found: they are what `tokens` yields. -/
theorem AreRuns.tokens_eq {runs : List (List Char)} (h : AreRuns separators text runs) :
    tokens separators text = runs := by
  induction h with
  | nil => rfl
  | separator mem _ ih => rw [tokens_cons_separator mem, ih]
  | run filled plain ends _ ih => rw [tokens_append_run filled plain ends, ih]

/-- Runs can be put in front of a text that starts with a separator, if only an empty one. -/
theorem AreRuns.append {run : List Char} {runs : List (List Char)}
    (plain : ∀ c ∈ run, c ∉ separators) (ends : ∀ c, text.head? = some c → c ∈ separators)
    (rest : AreRuns separators text runs) : ∃ runs, AreRuns separators (run ++ text) runs := by
  by_cases filled : run = []
  case pos =>
    subst filled
    exact ⟨runs, rest⟩
  case neg => exact ⟨run :: runs, .run filled plain ends rest⟩

/-- Every text has runs, since a prefix without separators can be cut off as long as there is a
character left. -/
theorem exists_areRuns (separators text : List Char) : ∃ runs, AreRuns separators text runs := by
  have separates {c : Char} : separators.contains c = true ↔ c ∈ separators :=
    List.contains_iff_mem
  -- on the length of the text: it is one run, or goes on behind its first separator
  induction size : text.length using Nat.strongRecOn generalizing text with
  | ind n ih =>
    rcases plain_or_eq_append (fun c => separators.contains c) text with
      plain | ⟨run, sep, rest, rfl, plain, cut⟩
    · have plain : ∀ c ∈ text, c ∉ separators := by simpa using plain
      have whole := AreRuns.append plain (fun c impossible => (by cases impossible)) .nil
      rwa [List.append_nil] at whole
    · have shorter : rest.length < n := by
        rw [← size, List.length_append, List.length_cons]
        omega
      obtain ⟨runs, later⟩ := ih rest.length shorter rest rfl
      have plain : ∀ c ∈ run, c ∉ separators := by simpa using plain
      have mem : sep ∈ separators := separates.mp cut
      refine AreRuns.append plain ?_ (.separator mem later)
      rintro c ⟨⟩
      exact mem

/-- `tokens` finds the runs of a text in order. -/
theorem areRuns_iff {runs : List (List Char)} :
    AreRuns separators text runs ↔ tokens separators text = runs := by
  constructor
  · exact AreRuns.tokens_eq
  · rintro rfl
    obtain ⟨runs, cut⟩ := exists_areRuns separators text
    rw [cut.tokens_eq]
    exact cut

end

/-! ## One token after another -/

/-- Inversion of `foldlM`: what is done with each of some tokens succeeds if it does with the first
and then with the others. -/
theorem foldlM_cons_eq_ok_iff {ε α β : Type} {step : β → α → Except ε β} {first last : β} {a : α}
    {as : List α} : (a :: as).foldlM step first = .ok last ↔
      ∃ next, step first a = .ok next ∧ as.foldlM step next = .ok last := by
  rw [List.foldlM_cons]
  cases step first a with
  | error fault => exact iff_of_false nofun nofun
  | ok next =>
    constructor
    · intro rest
      exact ⟨next, rfl, rest⟩
    · rintro ⟨_, ⟨⟩, rest⟩
      exact rest

/-- Inversion of `foldlM` that fails: with the first or, after that succeeded, with one of the
others. -/
theorem foldlM_cons_eq_error_iff {ε α β : Type} {step : β → α → Except ε β} {first : β} {a : α}
    {as : List α} {fault : ε} : (a :: as).foldlM step first = .error fault ↔
      step first a = .error fault ∨
        ∃ next, step first a = .ok next ∧ as.foldlM step next = .error fault := by
  rw [List.foldlM_cons]
  cases step first a with
  | error fault =>
    show Except.error fault = _ ↔ _
    simp
  | ok next =>
    show as.foldlM step next = _ ↔ _
    simp

/-! ## Numbers in base ten -/

/-- The digits of base ten are the decimal ones, with their values. -/
theorem digit?_ten (c : Char) :
    Radix.digit? 10 c = if c.isDigit then some (c.toNat - '0'.toNat) else none := by
  have digit : '0' ≤ c ∧ c ≤ '9' ↔ c.isDigit = true := by
    rw [Char.isDigit_iff_toNat]
    exact Iff.rfl
  rw [Radix.digit?, Radix.hexDigit?]
  by_cases decimal : c.isDigit = true
  case pos =>
    have small : c.toNat - '0'.toNat < 10 := by
      have top : c.toNat ≤ 57 := (Char.isDigit_iff_toNat.mp decimal).2
      show c.toNat - 48 < 10
      omega
    rw [if_pos (digit.mpr decimal), if_pos decimal]
    exact Option.filter_some_pos (decide_eq_true small)
  case neg =>
    rw [if_neg fun range => decimal (digit.mp range), if_neg decimal]
    -- the other digits have values from ten on
    split
    case isTrue => exact Option.filter_some_neg (by simp)
    case isFalse =>
      split
      case isTrue => exact Option.filter_some_neg (by simp)
      case isFalse => rfl

theorem foldl_digit_ten {token : List Char} (digits : ∀ c ∈ token, c.isDigit = true) :
    token.foldl (fun n c => n * 10 + (Radix.digit? 10 c).getD 0) 0
      = Nat.ofDigitChars 10 token 0 := by
  refine List.foldl_ext _ _ 0 fun n c mem => ?_
  rw [digit?_ten, if_pos (digits c mem), Option.getD_some, Nat.mul_comm]

/-- A token is read by `number` as what `Decimal.Denotes` says, in base ten. -/
theorem number_ten_eq_ok_iff {token : List Char} (filled : token ≠ []) {n : Nat} :
    number 10 token = .ok n ↔ Decimal.Denotes token n := by
  have digit (c : Char) : (Radix.digit? 10 c).isNone = !c.isDigit := by
    rw [digit?_ten]
    cases c.isDigit <;> rfl
  simp only [number, digit]
  split
  case h_1 bad found =>
    have letter := List.find?_some found
    refine ⟨fun impossible => (by cases impossible), fun denotes => ?_⟩
    rw [denotes.digits bad (List.mem_of_find?_eq_some found)] at letter
    cases letter
  case h_2 none =>
    have digits (c : Char) (mem : c ∈ token) : c.isDigit = true := by
      simpa using List.find?_eq_none.mp none c mem
    rw [foldl_digit_ten digits, Except.ok.injEq]
    exact ⟨fun value => ⟨filled, digits, value⟩, fun denotes => denotes.value⟩

end SnmpManager.Literal
