import SnmpManager.Proofs.Oid.Grammar

/-!
# Dotted decimal and what is wrong with it

Every text is read in one of four ways: as a path, or with a fault that says whether there is
nothing to read, too many arcs, or something that is no arc. The grammar decides which. As far
as a path has a text that is read, reading and writing are inverse to each other.

- `Oid.Written`: the texts with arcs to read, however many these are.
- `Oid.ReadAs`: what a text is read as, by the grammar alone.
- `Oid.parse_eq_iff`: `Oid.parse` reads every text so.
- `Oid.Unpadded`, `Oid.text_of_parse`: the texts that come back when what was read is written.
-/

namespace SnmpManager.Oid

/-- Arcs between single dots, with at most one more dot in front. -/
def Written (text : List Char) (arcs : List UInt32) : Prop :=
  Dotted text arcs ∨ ∃ body, text = '.' :: body ∧ Dotted body arcs

/-- What a text is read as, by `Written` alone. A fault in an arc goes before too many arcs. -/
inductive ReadAs (text : String) : Except Error Oid → Prop where
  | path {oid : Oid} (written : Written text.toList oid.arcs) (short : oid.length ≤ maxArcs) :
      ReadAs text (.ok oid)
  | empty (blank : text = "" ∨ text = ".") : ReadAs text (.error (.invalidOid .empty (some text)))
  | tooManyArcs {arcs : List UInt32} (written : Written text.toList arcs)
      (long : maxArcs < arcs.length) :
      ReadAs text (.error (.invalidOid (.tooManyArcs arcs.length maxArcs) none))
  | invalidArc (filled : ¬ (text = "" ∨ text = "."))
      (garbled : ∀ arcs, ¬ Written text.toList arcs) :
      ReadAs text (.error (.invalidOid .invalidArc (some text)))

/-! ## Reading -/

/-- `Written` is what `arcs?` takes once the dot in front is dropped. -/
theorem arcs?_dropDot_iff {text : List Char} {arcs : List UInt32} :
    arcs? (dropDot text) = some arcs ↔ Written text arcs :=
  arcs?_eq_some_iff.trans dotted_dropDot_iff

theorem arcs?_dropDot_eq_none_iff {text : List Char} :
    arcs? (dropDot text) = none ↔ ∀ arcs, ¬ Written text arcs := by
  simp only [← arcs?_dropDot_iff, Option.eq_none_iff_forall_ne_some, ne_eq]

theorem dropDot_eq_nil_iff {text : String} :
    dropDot text.toList = [] ↔ text = "" ∨ text = "." := by
  rw [← @String.toList_inj text "", ← @String.toList_inj text "."]
  unfold dropDot
  split
  case h_1 rest written => simp [written]
  case h_2 plain =>
    have other : text.toList ≠ ['.'] := plain []
    simp [other]

theorem Written.filled {text : String} {arcs : List UInt32} (h : Written text.toList arcs) :
    dropDot text.toList ≠ [] := by
  intro none
  have read := arcs?_dropDot_iff.mpr h
  rw [none] at read
  cases read

theorem checkLength_of_long {arcs : List UInt32} (long : maxArcs < arcs.length) :
    checkLength ⟨arcs⟩ = .error (.tooManyArcs arcs.length maxArcs) :=
  if_pos long

/-- Every text is `ReadAs` what the reader makes of it. The cases are those of the reader, in its
order: nothing to read, no arcs, too many of them. -/
theorem readAs_parse (text : String) : ReadAs text (parse text) := by
  unfold parse
  dsimp only
  split
  case isTrue blank => exact .empty (dropDot_eq_nil_iff.mp blank)
  case isFalse filled =>
    split
    case h_1 garbled =>
      exact .invalidArc (mt dropDot_eq_nil_iff.mpr filled) (arcs?_dropDot_eq_none_iff.mp garbled)
    case h_2 arcs read =>
      have written := arcs?_dropDot_iff.mp read
      by_cases long : maxArcs < arcs.length
      case pos =>
        rw [checkLength_of_long long]
        exact .tooManyArcs written long
      case neg =>
        have short : (⟨arcs⟩ : Oid).length ≤ maxArcs := Nat.not_lt.mp long
        rw [(checkLength_eq_ok_iff ⟨arcs⟩).mpr short]
        exact .path written short

/-- The converse: what a text is `ReadAs` is what the reader makes of it. -/
theorem parse_of_readAs {text : String} {outcome : Except Error Oid} (h : ReadAs text outcome) :
    parse text = outcome := by
  cases h with
  | path written short => exact parse_eq_ok_iff.mpr ⟨dotted_dropDot_iff.mpr written, short⟩
  | empty blank => rw [parse, if_pos (dropDot_eq_nil_iff.mpr blank)]
  | tooManyArcs written long =>
    rw [parse, if_neg written.filled, arcs?_dropDot_iff.mpr written]
    dsimp only
    rw [checkLength_of_long long]
  | invalidArc filled garbled =>
    rw [parse, if_neg (mt dropDot_eq_nil_iff.mp filled), arcs?_dropDot_eq_none_iff.mpr garbled]

theorem parse_eq_iff {text : String} {outcome : Except Error Oid} :
    parse text = outcome ↔ ReadAs text outcome :=
  ⟨fun h => h ▸ readAs_parse text, parse_of_readAs⟩

/-! ## Reading what is written -/

theorem dotted_chars {oid : Oid} (filled : 1 ≤ oid.length) : Dotted oid.chars oid.arcs :=
  arcs?_eq_some_iff.mp (arcs?_chars (List.ne_nil_of_length_pos filled))

/-- One dot in front of `text` changes nothing. -/
theorem parse_dot_text {oid : Oid} (filled : 1 ≤ oid.length) (short : oid.length ≤ maxArcs) :
    parse ("." ++ oid.text) = .ok oid := by
  refine parse_eq_iff.mpr (.path (.inr ⟨oid.chars, ?_, dotted_chars filled⟩) short)
  rw [String.toList_append, text, String.toList_ofList, String.toList_ofList]
  rfl

/-! ## Writing what is read -/

/-- No zero stands in front of another digit of an arc. -/
def Unpadded (text : List Char) : Prop :=
  ∀ part ∈ text.splitOn '.', part.head? = some '0' → part = ['0']

instance (text : List Char) : Decidable (Unpadded text) :=
  inferInstanceAs (Decidable (∀ part ∈ text.splitOn '.', part.head? = some '0' → part = ['0']))

/-- `chars` writes an `Unpadded` text as it was read: arcs without needless zeros, with dots where
they were. -/
theorem Dotted.chars_eq {text : List Char} {arcs : List UInt32} (h : Dotted text arcs)
    (unpadded : Unpadded text) : (⟨arcs⟩ : Oid).chars = text := by
  induction h with
  | last number =>
    rw [Unpadded, List.splitOn_eq_singleton (number.not_mem rfl)] at unpadded
    rw [chars, List.map_singleton, List.intercalate_singleton]
    exact number.toDigits_eq (unpadded _ List.mem_cons_self)
  | cons number more ih =>
    rw [Unpadded, List.splitOn_append_cons_self_of_not_mem (number.not_mem rfl)] at unpadded
    -- the dots divide the text as they divide the arcs, so each part is unpadded by itself
    obtain ⟨first, rest⟩ := List.forall_mem_cons.mp unpadded
    rw [chars] at ih
    rw [chars, List.map_cons,
      List.intercalate_cons_of_ne_nil (mt List.map_eq_nil_iff.mp more.ne_nil), ih rest,
      number.toDigits_eq first, List.append_assoc, List.singleton_append]

/-- What is read from a text without needless dots and zeros is written as the text, by
`Dotted.chars_eq`. -/
theorem text_of_parse {text : String} {oid : Oid} (h : parse text = .ok oid)
    (plain : text.toList.head? ≠ some '.') (unpadded : Unpadded text.toList) : oid.text = text := by
  obtain ⟨dotted, _⟩ := parse_eq_ok_iff.mp h
  rcases dotted_dropDot_iff.mp dotted with dotted | ⟨body, written, _⟩
  · rw [Oid.text, dotted.chars_eq unpadded, String.ofList_toList]
  · rw [written] at plain
    exact absurd rfl plain

/-! ## Both ways -/

/-- Every text is read by `parse` as `ReadAs` says. A path of 1 to `maxArcs` arcs is read from its
own text, also with a dot in front, and what is read from a text with neither a dot nor zeros in
front is written as the text. -/
theorem parse_inverts_text :
    (∀ text outcome, parse text = outcome ↔ ReadAs text outcome) ∧
    (∀ oid : Oid, 1 ≤ oid.length → oid.length ≤ maxArcs →
      parse oid.text = .ok oid ∧ parse ("." ++ oid.text) = .ok oid) ∧
    ∀ text oid, parse text = .ok oid → text.toList.head? ≠ some '.' → Unpadded text.toList →
      oid.text = text := by
  refine ⟨fun _ _ => parse_eq_iff, fun oid filled short => ⟨?_, parse_dot_text filled short⟩, ?_⟩
  · exact parse_text (List.ne_nil_of_length_pos filled) short
  · exact fun _ _ => text_of_parse

/-- The largest arc there is behind a zero that is no padding, and one arc too many. -/
theorem parse_inverts_text_edges :
    let largest : Oid := ⟨[0, 4294967295]⟩
    let long : Oid := ⟨List.replicate 129 7⟩
    1 ≤ largest.length ∧ largest.length ≤ maxArcs ∧
      parse ".0.4294967295" = .ok largest ∧
      "0.4294967295".toList.head? ≠ some '.' ∧ Unpadded "0.4294967295".toList ∧
      parse "0.4294967295" = .ok largest ∧ largest.text = "0.4294967295" ∧
      parse long.text = .error (.invalidOid (.tooManyArcs 129 128) none) := by
  intro largest long
  have filled : 1 ≤ largest.length := by decide
  have short : largest.length ≤ maxArcs := by decide
  have written : largest.text = "0.4294967295" := by decide +kernel
  have dotless : "0.4294967295".toList.head? ≠ some '.' := by decide +kernel
  have unpadded : Unpadded "0.4294967295".toList := by decide +kernel
  have many : long.length = 129 := List.length_replicate
  obtain ⟨reads, back, again⟩ := parse_inverts_text
  have ⟨plain, dotted⟩ := back largest filled short
  rw [written] at plain dotted
  refine ⟨filled, short, dotted, dotless, unpadded, plain, again _ _ plain dotless unpadded, ?_⟩
  have spelled : Written long.text.toList long.arcs := by
    rw [text, String.toList_ofList]
    exact .inl (dotted_chars (many ▸ by decide))
  have refused := ReadAs.tooManyArcs spelled (show maxArcs < long.length from many ▸ by decide)
  rw [show long.arcs.length = 129 from many] at refused
  exact (reads _ _).mpr refused

end SnmpManager.Oid
