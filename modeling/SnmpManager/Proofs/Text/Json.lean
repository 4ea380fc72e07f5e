import SnmpManager.Proofs.Text.Decimal
import SnmpManager.Proofs.Text.Hex
import SnmpManager.Text.Json

/-!
# JSON text read back

A reader of JSON objects, after the grammar of JSON and not after the way this library
writes them: blanks may stand between any two tokens, every escape is understood, and a
control character is refused where it stands bare in a string. Members have strings, whole
numbers and `null` as values. All else is refused: other values, a fraction or an exponent,
and the escape of half a surrogate pair.

- `Json.readString`: the characters of a string. Each is read from how it is written,
  whatever comes after it (`Json.readString_escape`).
- `Json.object?`: a text that is one object, as the list of its members.
- `Json.object?_object`: the members are read as they were written, whatever strings and
  numbers they hold.
-/

namespace SnmpManager.Json

/-! ## The reader -/

/-- The blanks that may stand between tokens. -/
def isBlank (c : Char) : Bool :=
  [' ', '\t', '\n', '\r'].contains c

/-- The text without the blanks in front. -/
def dropBlanks (text : List Char) : List Char :=
  text.dropWhile isBlank

/-- The character that stands after a backslash for another one. -/
def shortEscape? : Char → Option Char
  | '"' => some '"'
  | '\\' => some '\\'
  | '/' => some '/'
  | 'b' => some '\x08'
  | 'f' => some '\x0c'
  | 'n' => some '\n'
  | 'r' => some '\r'
  | 't' => some '\t'
  | _ => none

/-- The character whose code point is written in hex. -/
def hexEscape? (digits : List Char) : Option Char :=
  (Radix.nat? 16 digits).bind fun n => if n.isValidChar then some (Char.ofNat n) else none

/-- The characters of a string up to its closing quote, and what is after the quote. -/
def readString : List Char → Option (List Char × List Char)
  | [] => none
  | '"' :: rest => some ([], rest)
  | '\\' :: 'u' :: a :: b :: c :: d :: rest =>
    match hexEscape? [a, b, c, d] with
    | none => none
    | some char => (readString rest).map fun (chars, after) => (char :: chars, after)
  | '\\' :: letter :: rest =>
    match shortEscape? letter with
    | none => none
    | some char => (readString rest).map fun (chars, after) => (char :: chars, after)
  | char :: rest =>
    if char.toNat < 0x20 then none
    else (readString rest).map fun (chars, after) => (char :: chars, after)

/-- Digits without a leading zero, as a number, and what is after them. -/
def readNat (text : List Char) : Option (Nat × List Char) :=
  let digits := text.takeWhile Char.isDigit
  if digits.head? = some '0' ∧ digits.length > 1 then none
  else (Decimal.nat? digits).map fun n => (n, text.dropWhile Char.isDigit)

/-- A number that may have a minus sign. -/
def readInt : List Char → Option (Int × List Char)
  | '-' :: rest => (readNat rest).map fun (n, after) => (-(n : Int), after)
  | text => (readNat text).map fun (n, after) => ((n : Int), after)

/-- A value, and what is after it. -/
def readScalar : List Char → Option (Scalar × List Char)
  | '"' :: rest => (readString rest).map fun (text, after) => (.string text, after)
  | 'n' :: 'u' :: 'l' :: 'l' :: rest => some (.null, rest)
  | text => (readInt text).map fun (n, after) => (.number n, after)

/-- What is after a token. -/
def after? (token : Char) (text : List Char) : Option (List Char) :=
  match dropBlanks text with
  | [] => none
  | c :: rest => if c = token then some rest else none

/-- A key and its value. -/
def readMember (text : List Char) : Option ((String × Scalar) × List Char) := do
  let (key, rest) ← readString (← after? '"' text)
  let (value, rest) ← readScalar (dropBlanks (← after? ':' rest))
  return ((String.ofList key, value), rest)

/-- Members between commas up to the closing brace, and what is after the brace. There are at most
`fuel` of them, and at least one. -/
def readMembers : (fuel : Nat) → List Char → Option (List (String × Scalar) × List Char)
  | 0, _ => none
  | fuel + 1, text => do
    let (member, rest) ← readMember text
    match dropBlanks rest with
    | ',' :: rest => (readMembers fuel rest).map fun (members, after) => (member :: members, after)
    | '\x7d' :: rest => some ([member], rest)
    | _ => none

/-- All members of an object whose opening brace was read. -/
def readFields (text : List Char) : Option (List (String × Scalar) × List Char) :=
  match after? '\x7d' text with
  | some rest => some ([], rest)
  | none => readMembers text.length text

/-- A text that is one object: its members in order. -/
def object? (text : List Char) : Option (List (String × Scalar)) := do
  let (members, rest) ← readFields (← after? '\x7b' text)
  if dropBlanks rest = [] then some members else none

/-! ## Strings -/

/-- A control character is read from its code point, which `hexEscape?` takes after two zeros. -/
theorem hexEscape?_hexPair {c : Char} (control : c.toNat < 0x20) :
    hexEscape? ('0' :: '0' :: Octets.hexPair 'a' (UInt8.ofNat c.toNat)) = some c := by
  have octet : (UInt8.ofNat c.toNat).toNat = c.toNat := by
    rw [UInt8.toNat_ofNat']
    omega
  have zero : Radix.digit? 16 '0' = some 0 := by decide
  have high := Octets.digit?_high (.inr rfl) (UInt8.ofNat c.toNat)
  have low := Octets.digit?_low (.inr rfl) (UInt8.ofNat c.toNat)
  have number : Radix.nat? 16 ('0' :: '0' :: Octets.hexPair 'a' (UInt8.ofNat c.toNat))
      = some ((0 * 16 + c.toNat / 16) * 16 + c.toNat % 16) := by
    rw [octet] at high low
    rw [Radix.nat?, if_neg (List.cons_ne_nil _ _), Octets.hexPair, octet]
    simp only [List.foldlM_cons, List.foldlM_nil, zero, high, low]
    rfl
  have whole : (0 * 16 + c.toNat / 16) * 16 + c.toNat % 16 = c.toNat := by omega
  have valid : c.toNat.isValidChar := c.valid
  rw [hexEscape?, number, Option.bind_some, whole, if_pos valid, Char.ofNat_toNat]

/-- A character is read from how `escape` writes it, in each of the cases of `escape`. -/
theorem readString_escape (c : Char) (rest : List Char) :
    readString (escape c ++ rest)
      = (readString rest).map fun (chars, after) => (c :: chars, after) := by
  by_cases quote : c = '"'
  · subst quote
    rfl
  by_cases backslash : c = '\\'
  · subst backslash
    rfl
  by_cases backspace : c = '\x08'
  · subst backspace
    rfl
  by_cases formFeed : c = '\x0c'
  · subst formFeed
    rfl
  by_cases lineFeed : c = '\n'
  · subst lineFeed
    rfl
  by_cases carriageReturn : c = '\r'
  · subst carriageReturn
    rfl
  by_cases tab : c = '\t'
  · subst tab
    rfl
  -- left are the control characters without a letter, and those that stand for themselves
  rw [escape, if_neg quote, if_neg backslash, if_neg backspace, if_neg formFeed, if_neg lineFeed,
    if_neg carriageReturn, if_neg tab]
  by_cases control : c.toNat < 0x20
  · have read := hexEscape?_hexPair control
    rw [if_pos control]
    rw [Octets.hexPair] at read ⊢
    show readString ('\\' :: 'u' :: '0' :: '0' :: _ :: _ :: rest) = _
    rw [readString, read]
  · rw [if_neg control, List.singleton_append, readString, if_neg control]
    · exact quote
    · intro _ _ _ _ _ same
      exact absurd same backslash
    · intro _ _ same
      exact absurd same backslash

/-- By induction on the text, one `escape` after another, up to the closing quote. -/
theorem readString_escaped (text rest : List Char) :
    readString (text.flatMap escape ++ '"' :: rest) = some (text, rest) := by
  induction text with
  | nil => rfl
  | cons c text ih =>
    rw [List.flatMap_cons, List.append_assoc, readString_escape, ih]
    rfl

/-! ## Values -/

/-- A number is read by `readNat` up to what is no digit; it has no zero in front. -/
theorem readNat_toDigits (n : Nat) {rest : List Char} (ends : Decimal.EndsDigits rest) :
    readNat (Nat.toDigits 10 n ++ rest) = some (n, rest) := by
  rw [readNat]
  simp only [Decimal.takeWhile_toDigits n ends, Decimal.dropWhile_toDigits n ends]
  rw [if_neg (Decimal.not_leadingZero n), Decimal.nat?_toDigits]
  rfl

/-- `readInt` reads a number to its end, and exactly. -/
theorem readInt_toString (n : Int) {rest : List Char} (ends : Decimal.EndsDigits rest) :
    readInt ((toString n).toList ++ rest) = some (n, rest) := by
  cases n with
  | ofNat n =>
    have read := readNat_toDigits n ends
    obtain ⟨c, more, written, digit⟩ := Decimal.exists_digit_toDigits n
    -- digits have no minus sign in front, so that the second case of the reader applies
    rw [Int.ofNat_eq_natCast, Decimal.toList_toString_ofNat]
    rw [written, List.cons_append] at read ⊢
    rw [readInt, read]
    · rfl
    · rintro _ ⟨⟩
      exact absurd digit (by decide)
  | negSucc n =>
    rw [Decimal.toList_toString_negSucc, List.cons_append, readInt, readNat_toDigits (n + 1) ends]
    rfl

/-- A number starts with a minus sign or a digit, so `readScalar` does not take it for a string or
for `null`. -/
theorem exists_cons_toString (n : Int) :
    ∃ c rest, (toString n).toList = c :: rest ∧ (c = '-' ∨ c.isDigit = true) := by
  cases n with
  | ofNat n =>
    obtain ⟨c, rest, written, digit⟩ := Decimal.exists_digit_toDigits n
    exact ⟨c, rest, (Decimal.toList_toString_ofNat n).trans written, .inr digit⟩
  | negSucc n => exact ⟨'-', _, Decimal.toList_toString_negSucc n, .inl rfl⟩

/-- `readScalar` reads a value from how it is written, if its number has ended. -/
theorem readScalar_write (value : Scalar) {rest : List Char} (ends : Decimal.EndsDigits rest) :
    readScalar (value.write ++ rest) = some (value, rest) := by
  cases value with
  | null => rfl
  | string text =>
    show readScalar ('"' :: ((text.flatMap escape ++ ['"']) ++ rest)) = _
    rw [List.append_assoc, List.singleton_append, readScalar, readString_escaped]
    rfl
  | number n =>
    have read := readInt_toString n ends
    obtain ⟨c, more, written, start⟩ := exists_cons_toString n
    rw [Scalar.write]
    rw [written, List.cons_append] at read ⊢
    rw [readScalar, read]
    · rfl
    · rintro _ ⟨⟩
      exact absurd start (by decide)
    · intro _ same
      obtain ⟨rfl, -⟩ := List.cons.inj same
      exact absurd start (by decide)

/-! ## Tokens -/

theorem isBlank_of_isDigit {c : Char} (digit : c.isDigit = true) : isBlank c = false := by
  rw [isBlank, Bool.eq_false_iff, Ne, List.contains_iff_mem]
  intro blank
  simp only [List.mem_cons, List.not_mem_nil, or_false] at blank
  rcases blank with rfl | rfl | rfl | rfl
  all_goals exact absurd digit (by decide)

theorem dropBlanks_cons {c : Char} (h : isBlank c = false) (rest : List Char) :
    dropBlanks (c :: rest) = c :: rest := by
  refine List.dropWhile_cons_of_neg ?_
  rw [h]
  decide

theorem after?_cons {token : Char} (h : isBlank token = false) (rest : List Char) :
    after? token (token :: rest) = some rest := by
  rw [after?, dropBlanks_cons h]
  exact if_pos rfl

/-- No value starts with a blank, so `dropBlanks` leaves it alone. -/
theorem dropBlanks_write (value : Scalar) (rest : List Char) :
    dropBlanks (value.write ++ rest) = value.write ++ rest := by
  cases value with
  | null => rfl
  | string text => rfl
  | number n =>
    obtain ⟨c, more, written, start⟩ := exists_cons_toString n
    have visible : isBlank c = false := by
      rcases start with rfl | digit
      · rfl
      · exact isBlank_of_isDigit digit
    rw [Scalar.write, written]
    exact dropBlanks_cons visible _

/-! ## Objects -/

/-- How a key and its value are written. -/
def member (field : String × Scalar) : List Char :=
  quote field.1.toList ++ [':'] ++ field.2.write

/-- A member is read by `readMember` up to what is no digit, since its value may be a number. -/
theorem readMember_member (field : String × Scalar) {rest : List Char}
    (ends : Decimal.EndsDigits rest) :
    readMember (member field ++ rest) = some (field, rest) := by
  have parts : member field ++ rest = '"' :: (field.1.toList.flatMap escape
      ++ '"' :: ':' :: (field.2.write ++ rest)) := by
    simp only [member, quote, List.cons_append, List.append_assoc, List.nil_append]
  rw [parts, readMember, after?_cons rfl]
  simp only [Option.bind_eq_bind, Option.bind_some, readString_escaped]
  rw [after?_cons rfl]
  simp only [Option.bind_some, dropBlanks_write, readScalar_write field.2 ends,
    String.ofList_toList]
  rfl

/-- How the members of an object are written, without its braces. -/
def members (fields : List (String × Scalar)) : List Char :=
  [','].intercalate (fields.map member)

theorem members_singleton (field : String × Scalar) : members [field] = member field :=
  List.intercalate_singleton

theorem members_cons_cons (field next : String × Scalar) (more : List (String × Scalar)) :
    members (field :: next :: more) = member field ++ ',' :: members (next :: more) := by
  have others : (next :: more).map member ≠ [] := List.cons_ne_nil _ _
  rw [members, List.map_cons, List.intercalate_cons_of_ne_nil others, List.append_assoc,
    List.singleton_append]
  rfl

/-- A member takes a character at least, so the text is fuel enough for its members. -/
theorem length_le_members (fields : List (String × Scalar)) :
    fields.length ≤ (members fields).length := by
  induction fields with
  | nil => exact Nat.zero_le _
  | cons field fields ih =>
    have some : 0 < (member field).length := Nat.succ_pos _
    cases fields with
    | nil =>
      rw [members_singleton]
      exact some
    | cons next more =>
      simp only [members_cons_cons, List.length_append, List.length_cons] at ih ⊢
      omega

/-- By induction on the members, each with a comma or the brace behind it: `readMembers` reads them
up to the closing brace. -/
theorem readMembers_members {fields : List (String × Scalar)} {fuel : Nat} (filled : fields ≠ [])
    (enough : fields.length ≤ fuel) (rest : List Char) :
    readMembers fuel (members fields ++ '\x7d' :: rest) = some (fields, rest) := by
  -- the last member is before the brace, and each one before it is before a comma
  induction fields generalizing fuel with
  | nil => exact absurd rfl filled
  | cons field fields ih =>
    obtain ⟨fuel, rfl⟩ : ∃ k, fuel = k + 1 :=
      Nat.exists_eq_succ_of_ne_zero (Nat.ne_of_gt (Nat.lt_of_lt_of_le (Nat.succ_pos _) enough))
    cases fields with
    | nil =>
      have ends := Decimal.endsDigits_cons (c := '\x7d') rfl rest
      rw [members_singleton, readMembers, readMember_member field ends]
      rfl
    | cons next more =>
      have others := ih (List.cons_ne_nil next more) (Nat.le_of_succ_le_succ enough)
      have ends := Decimal.endsDigits_cons (c := ',') rfl (members (next :: more) ++ '\x7d' :: rest)
      rw [members_cons_cons, List.append_assoc, List.cons_append, readMembers,
        readMember_member field ends]
      simp only [Option.bind_eq_bind, Option.bind_some, dropBlanks_cons (c := ',') rfl, others]
      rfl

/-- A member starts with the quote of its key, so the object is not empty. -/
theorem after?_members {fields : List (String × Scalar)} (filled : fields ≠ []) (rest : List Char) :
    after? '\x7d' (members fields ++ rest) = none := by
  obtain ⟨field, more, rfl⟩ := List.exists_cons_of_ne_nil filled
  have start : member field = '"' :: (field.1.toList.flatMap escape ++ ['"'] ++ [':']
      ++ field.2.write) := rfl
  rw [members, List.map_cons, start, List.intercalate_cons_cons_left]
  rfl

/-- Members are read whether there are any or not. -/
theorem readFields_members (fields : List (String × Scalar)) (rest : List Char) :
    readFields (members fields ++ '\x7d' :: rest) = some (fields, rest) := by
  by_cases filled : fields = []
  · subst filled
    rfl
  · have enough : fields.length ≤ (members fields ++ '\x7d' :: rest).length := by
      rw [List.length_append]
      exact Nat.le_add_right_of_le (length_le_members fields)
    rw [readFields, after?_members filled]
    exact readMembers_members filled enough rest

/-- The members are read by `object?` as they were written. -/
theorem object?_object (fields : List (String × Scalar)) :
    object? (object fields) = some fields := by
  have written : object fields = '\x7b' :: (members fields ++ ['\x7d']) := rfl
  rw [written, object?, after?_cons rfl]
  simp only [Option.bind_eq_bind, Option.bind_some, readFields_members]
  rfl

/-- A text with blanks, and escapes that are never written. -/
example : object? "\t\x7b \"a\" : \"\\u0041\\/\", \"b\":-5 \x7d ".toList
    = some [("a", .string ['A', '/']), ("b", .number (-5))] := by
  decide

end SnmpManager.Json
