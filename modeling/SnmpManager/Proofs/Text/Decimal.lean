import SnmpManager.Text.Decimal

/-!
# Decimal text read back

What `toString` writes for a number is read as that number, by whatever rule: digits alone
(`Decimal.nat?_toDigits`), or with a sign and a bound (`Decimal.signed?_toString`).

- `Decimal.Denotes`: the number that some digits stand for. These are the texts that are read as a
  number (`Decimal.nat?_eq_some_iff`), with or without a sign (`Decimal.unsigned?_eq_some_iff`).
- `Decimal.Denotes.toDigits_eq`: without a zero in front, the digits are those that the number is
  written in.
- `Decimal.Signed`: the same with at most one sign, which decides whether the number is negative
  (`Decimal.signed?_eq_some_iff`).
- `Decimal.EndsDigits`: a text at which a run of digits ends. There the digits are cut off as
  they were written, whatever follows them (`Decimal.takeWhile_toDigits`).
- `Decimal.not_leadingZero`: a number of more than one digit does not start with a zero.
-/

namespace SnmpManager.Decimal

/-! ## Digits -/

theorem isDigit_of_mem_toDigits {n : Nat} {c : Char} (h : c ∈ Nat.toDigits 10 n) :
    c.isDigit = true :=
  Nat.isDigit_of_mem_toDigits (by decide) (by decide) h

/-- A number is written with at least one digit, which comes first. -/
theorem exists_digit_toDigits (n : Nat) :
    ∃ c rest, Nat.toDigits 10 n = c :: rest ∧ c.isDigit = true := by
  obtain ⟨c, rest, written⟩ := List.exists_cons_of_ne_nil (Nat.toDigits_ne_nil (n := n) (b := 10))
  refine ⟨c, rest, written, isDigit_of_mem_toDigits (n := n) ?_⟩
  rw [written]
  exact List.mem_cons_self

/-- `nat?` reads what is written for a number. -/
theorem nat?_toDigits (n : Nat) : nat? (Nat.toDigits 10 n) = some n := by
  have digits : (Nat.toDigits 10 n).all Char.isDigit = true :=
    List.all_eq_true.mpr fun _ mem => isDigit_of_mem_toDigits mem
  rw [nat?, if_pos ⟨Nat.toDigits_ne_nil, digits⟩, Nat.ofDigitChars_ten_toDigits]

/-- Only the number zero starts with a zero. -/
theorem eq_zero_of_head?_toDigits {n : Nat} (h : (Nat.toDigits 10 n).head? = some '0') : n = 0 := by
  induction n using Nat.strongRecOn with
  | ind n ih =>
    by_cases small : n < 10
    · rw [Nat.toDigits_of_lt_base small] at h
      have digits : ∀ d < 10, [d.digitChar].head? = some '0' → d = 0 := by decide
      exact digits n small h
    · -- the last digit is not the first one
      obtain ⟨c, rest, front, -⟩ := exists_digit_toDigits (n / 10)
      have same : (Nat.toDigits 10 n).head? = (Nat.toDigits 10 (n / 10)).head? := by
        rw [Nat.toDigits_of_base_le (by decide) (Nat.not_lt.mp small), front]
        rfl
      rw [same] at h
      have none := ih (n / 10) (by omega) h
      omega

theorem not_leadingZero (n : Nat) :
    ¬ ((Nat.toDigits 10 n).head? = some '0' ∧ (Nat.toDigits 10 n).length > 1) := by
  rintro ⟨zero, long⟩
  obtain rfl := eq_zero_of_head?_toDigits zero
  exact absurd long (by decide)

/-! ## What is read as a number -/

/-- Decimal digits, at least one, and the number that they stand for. -/
structure Denotes (text : List Char) (n : Nat) : Prop where
  filled : text ≠ []
  digits : ∀ c ∈ text, c.isDigit = true
  value : Nat.ofDigitChars 10 text 0 = n

theorem Denotes.unique {text : List Char} {m n : Nat} (h : Denotes text m) (h' : Denotes text n) :
    m = n :=
  h.value.symm.trans h'.value

/-- What `Denotes` a number starts with a digit. -/
theorem Denotes.exists_digit {text : List Char} {n : Nat} (h : Denotes text n) :
    ∃ c rest, text = c :: rest ∧ c.isDigit = true := by
  obtain ⟨c, rest, rfl⟩ := List.exists_cons_of_ne_nil h.filled
  exact ⟨c, rest, rfl, h.digits c List.mem_cons_self⟩

theorem Denotes.not_mem {text : List Char} {n : Nat} (h : Denotes text n) {c : Char}
    (other : c.isDigit = false) : c ∉ text := by
  intro mem
  rw [h.digits c mem] at other
  cases other

/-- `nat?` reads exactly what `Denotes` a number. -/
theorem nat?_eq_some_iff {text : List Char} {n : Nat} : nat? text = some n ↔ Denotes text n := by
  rw [nat?]
  split
  case isTrue number =>
    rw [Option.some.injEq]
    exact ⟨fun value => ⟨number.1, List.all_eq_true.mp number.2, value⟩, Denotes.value⟩
  case isFalse none =>
    refine ⟨fun impossible => (by cases impossible), fun denotes => ?_⟩
    exact absurd ⟨denotes.filled, List.all_eq_true.mpr denotes.digits⟩ none

instance (text : List Char) (n : Nat) : Decidable (Denotes text n) :=
  decidable_of_iff (nat? text = some n) nat?_eq_some_iff

/-- `unsigned?` takes a plus in front of what `Denotes` a number, and holds it to a bound. -/
theorem unsigned?_eq_some_iff {bound : Nat} {text : List Char} {n : Nat} :
    unsigned? bound text = some n ↔
      (Denotes text n ∨ ∃ rest, text = '+' :: rest ∧ Denotes rest n) ∧ n < bound := by
  -- a text that starts with the sign is no number without it
  have signed (rest : List Char) : nat? ('+' :: rest) ≠ some n := fun number =>
    (nat?_eq_some_iff.mp number).not_mem rfl List.mem_cons_self
  simp only [← nat?_eq_some_iff]
  unfold unsigned?
  split
  case h_1 rest => simp [Option.filter_eq_some_iff, signed rest]
  case h_2 plain =>
    have unsigned : ¬ ∃ rest, text = '+' :: rest ∧ nat? rest = some n := by
      rintro ⟨rest, written, -⟩
      exact plain rest written
    simp [Option.filter_eq_some_iff, unsigned]

/-- Digits with at most one sign in front, and the number that they stand for. -/
inductive Signed : List Char → Int → Prop
  | plain {digits : List Char} {n : Nat} (denotes : Denotes digits n) : Signed digits n
  | plus {digits : List Char} {n : Nat} (denotes : Denotes digits n) : Signed ('+' :: digits) n
  | minus {digits : List Char} {n : Nat} (denotes : Denotes digits n) : Signed ('-' :: digits) (-n)

theorem signed_plus_iff {digits : List Char} {n : Int} :
    Signed ('+' :: digits) n ↔ ∃ m, Denotes digits m ∧ (m : Int) = n := by
  constructor
  · intro h
    cases h with
    | plain denotes => exact absurd List.mem_cons_self (denotes.not_mem rfl)
    | plus denotes => exact ⟨_, denotes, rfl⟩
  · rintro ⟨m, denotes, rfl⟩
    exact .plus denotes

theorem signed_minus_iff {digits : List Char} {n : Int} :
    Signed ('-' :: digits) n ↔ ∃ m, Denotes digits m ∧ -(m : Int) = n := by
  constructor
  · intro h
    cases h with
    | plain denotes => exact absurd List.mem_cons_self (denotes.not_mem rfl)
    | minus denotes => exact ⟨_, denotes, rfl⟩
  · rintro ⟨m, denotes, rfl⟩
    exact .minus denotes

/-- Without a sign in front, what is `Signed` is a number of its own. -/
theorem signed_iff_of_plain {text : List Char} (plus : ∀ rest, text ≠ '+' :: rest)
    (minus : ∀ rest, text ≠ '-' :: rest) {n : Int} :
    Signed text n ↔ ∃ m, Denotes text m ∧ (m : Int) = n := by
  constructor
  · intro h
    cases h with
    | plain denotes => exact ⟨_, denotes, rfl⟩
    | plus _ => exact absurd rfl (plus _)
    | minus _ => exact absurd rfl (minus _)
  · rintro ⟨m, denotes, rfl⟩
    exact .plain denotes

/-- `signed?` reads exactly what is `Signed` and within its bounds. -/
theorem signed?_eq_some_iff {half : Nat} {text : List Char} {n : Int} :
    signed? half text = some n ↔ Signed text n ∧ -(half : Int) ≤ n ∧ n < half := by
  unfold signed?
  rw [Option.filter_eq_some_iff, decide_eq_true_iff]
  refine and_congr_left fun _ => ?_
  split
  case h_1 rest =>
    simp only [signed_plus_iff, Option.map_eq_some_iff, nat?_eq_some_iff, Int.ofNat_eq_natCast]
  case h_2 rest =>
    simp only [signed_minus_iff, ← nat?_eq_some_iff]
    cases nat? rest <;> simp
  case h_3 plus minus =>
    simp only [signed_iff_of_plain plus minus, Option.map_eq_some_iff, nat?_eq_some_iff,
      Int.ofNat_eq_natCast]

/-! ## Digits written again -/

theorem digit_lt_ten {c : Char} (digit : c.isDigit = true) : c.toNat - '0'.toNat < 10 := by
  have top : c.toNat ≤ 57 := (Char.isDigit_iff_toNat.mp digit).2
  show c.toNat - 48 < 10
  omega

/-- A digit is written for its own value. -/
theorem toDigits_digit {c : Char} (digit : c.isDigit = true) :
    Nat.toDigits 10 (c.toNat - '0'.toNat) = [c] := by
  have all : ∀ d < 10, Nat.toDigits 10 d = [Char.ofNat ('0'.toNat + d)] := by decide
  have back : '0'.toNat + (c.toNat - '0'.toNat) = c.toNat :=
    Nat.add_sub_cancel' (Char.isDigit_iff_toNat.mp digit).1
  rw [all _ (digit_lt_ten digit), back, Char.ofNat_toNat]

/-- Digits behind a number other than zero are written again behind it. -/
theorem toDigits_ofDigitChars {start : Nat} (some : 0 < start) {digits : List Char}
    (h : ∀ c ∈ digits, c.isDigit = true) :
    Nat.toDigits 10 (Nat.ofDigitChars 10 digits start) = Nat.toDigits 10 start ++ digits := by
  induction digits generalizing start with
  | nil => rw [Nat.ofDigitChars_nil, List.append_nil]
  | cons c digits ih =>
    obtain ⟨digit, others⟩ := List.forall_mem_cons.mp h
    rw [Nat.ofDigitChars_cons, ih (by omega) others,
      ← Nat.toDigits_append_toDigits (by decide) some (digit_lt_ten digit), toDigits_digit digit,
      List.append_assoc, List.singleton_append]

/-- Digits without a zero in front are what is written for the number that they denote. The first
digit is not zero, so by `toDigits_ofDigitChars` the others are written behind it. -/
theorem Denotes.toDigits_eq {text : List Char} {n : Nat} (h : Denotes text n)
    (plain : text.head? = some '0' → text = ['0']) : Nat.toDigits 10 n = text := by
  obtain ⟨c, rest, rfl, digit⟩ := h.exists_digit
  rw [← h.value]
  by_cases zero : c = '0'
  case pos =>
    subst zero
    rw [plain rfl]
    rfl
  case neg =>
    have some : 0 < c.toNat - '0'.toNat := by
      have low : '0'.toNat ≤ c.toNat := (Char.isDigit_iff_toNat.mp digit).1
      have other : c.toNat ≠ '0'.toNat := fun same => zero (Char.toNat_inj.mp same)
      omega
    rw [Nat.ofDigitChars_cons, Nat.mul_zero, Nat.zero_add,
      toDigits_ofDigitChars some fun d mem => h.digits d (List.mem_cons_of_mem c mem),
      toDigits_digit digit, List.singleton_append]
/-! ## Digits in front of other text -/

/-- A text that does not start with a digit. -/
def EndsDigits (rest : List Char) : Prop :=
  ∀ c after, rest = c :: after → c.isDigit = false

theorem endsDigits_nil : EndsDigits [] := by
  intro c after impossible
  cases impossible

theorem endsDigits_cons {c : Char} (h : c.isDigit = false) (rest : List Char) :
    EndsDigits (c :: rest) := by
  rintro _ _ ⟨⟩
  exact h

/-- A text starts with a run of digits, which may be empty, up to a text that `EndsDigits`. -/
theorem exists_digits (text : List Char) : ∃ digits rest, text = digits ++ rest ∧
    (∀ c ∈ digits, c.isDigit = true) ∧ EndsDigits rest := by
  induction text with
  | nil => exact ⟨[], [], rfl, List.forall_mem_nil _, endsDigits_nil⟩
  | cons c text ih =>
    cases first : c.isDigit with
    | false => exact ⟨[], c :: text, rfl, List.forall_mem_nil _, endsDigits_cons first text⟩
    | true =>
      obtain ⟨digits, rest, rfl, others, ends⟩ := ih
      exact ⟨c :: digits, rest, rfl, List.forall_mem_cons.mpr ⟨first, others⟩, ends⟩

/-- No digits are taken off a text that does not start with one. -/
theorem EndsDigits.takeWhile {rest : List Char} (h : EndsDigits rest) :
    rest.takeWhile Char.isDigit = [] := by
  cases rest with
  | nil => rfl
  | cons c rest =>
    rw [List.takeWhile_cons_of_neg]
    rw [h c rest rfl]
    decide

theorem EndsDigits.dropWhile {rest : List Char} (h : EndsDigits rest) :
    rest.dropWhile Char.isDigit = rest := by
  cases rest with
  | nil => rfl
  | cons c rest =>
    rw [List.dropWhile_cons_of_neg]
    rw [h c rest rfl]
    decide

/-- Where the digits end, the run that is cut off is the number. -/
theorem takeWhile_toDigits (n : Nat) {rest : List Char} (h : EndsDigits rest) :
    (Nat.toDigits 10 n ++ rest).takeWhile Char.isDigit = Nat.toDigits 10 n := by
  rw [List.takeWhile_append_of_pos fun _ mem => isDigit_of_mem_toDigits mem, h.takeWhile,
    List.append_nil]

theorem dropWhile_toDigits (n : Nat) {rest : List Char} (h : EndsDigits rest) :
    (Nat.toDigits 10 n ++ rest).dropWhile Char.isDigit = rest := by
  rw [List.dropWhile_append_of_pos fun _ mem => isDigit_of_mem_toDigits mem, h.dropWhile]

/-! ## Numbers with a sign -/

theorem toList_toString_nat (n : Nat) : (toString n).toList = Nat.toDigits 10 n := by
  rw [Nat.toString_eq_ofList_toDigits, String.toList_ofList]

theorem toList_toString_ofNat (n : Nat) : (toString (n : Int)).toList = Nat.toDigits 10 n :=
  toList_toString_nat n

theorem toList_toString_negSucc (n : Nat) :
    (toString (Int.negSucc n)).toList = '-' :: Nat.toDigits 10 (n + 1) := by
  show ("-" ++ toString (n + 1)).toList = _
  rw [String.toList_append, toList_toString_nat]
  rfl

/-- Digits alone have no sign, so `signed?` only holds them to its bounds. -/
theorem signed?_toDigits (half n : Nat) :
    signed? half (Nat.toDigits 10 n)
      = (some (n : Int)).filter fun n => -(half : Int) ≤ n ∧ n < half := by
  obtain ⟨c, rest, written, digit⟩ := exists_digit_toDigits n
  have number := nat?_toDigits n
  -- neither sign is taken for the first digit
  rw [written] at number ⊢
  rw [signed?, number]
  · rfl
  · rintro _ ⟨⟩
    exact absurd digit (by decide)
  · rintro _ ⟨⟩
    exact absurd digit (by decide)

/-- What is written for a number is `Signed`: it has at most one sign, and that in front. -/
theorem signed_toString (n : Int) : Signed (toString n).toList n := by
  cases n with
  | ofNat n =>
    rw [Int.ofNat_eq_natCast, toList_toString_ofNat]
    exact .plain (nat?_eq_some_iff.mp (nat?_toDigits n))
  | negSucc n =>
    rw [toList_toString_negSucc]
    exact .minus (nat?_eq_some_iff.mp (nat?_toDigits (n + 1)))

/-- A number that is within the bounds is read back by `signed?`. -/
theorem signed?_toString {half : Nat} {n : Int} (low : -(half : Int) ≤ n) (high : n < half) :
    signed? half (toString n).toList = some n := by
  have within : decide (-(half : Int) ≤ n ∧ n < half) = true := decide_eq_true ⟨low, high⟩
  cases n with
  | ofNat n =>
    rw [Int.ofNat_eq_natCast, toList_toString_ofNat, signed?_toDigits]
    exact Option.filter_some_pos within
  | negSucc n =>
    rw [toList_toString_negSucc, signed?]
    rw [nat?_toDigits]
    exact Option.filter_some_pos within

end SnmpManager.Decimal
