import Mathlib.Data.List.Nodup
import SnmpManager.Proofs.Mib.Rendered
import SnmpManager.Proofs.Oid.Grammar
import SnmpManager.Proofs.Text.Split

/-!
# How an object may be typed

An object is typed as dotted decimal, as the name of a node, or as such a name with arcs after a
dot. All of these are resolved, and nothing else is, but for one form: since the arcs after a name
are read as a path of their own, a dot in front of them is dropped there too.

- `Mib.Spells`: the three forms, and the object that each stands for.
- `Mib.DottedTwice`: the form with two dots after the name.
- `Mib.find?_eq_some_iff`: a word names at most one node, whatever the case of its letters.
- `Mib.resolve_spelled_or_dottedTwice`: what is resolved, and to what.
-/

namespace SnmpManager.Mib

/-! ## Words that are names -/

/-- A word is the name of a node, whatever the case of its letters. -/
def Names (node : Node) (word : List Char) : Prop :=
  node ∈ nodes ∧ sameLetters node.name.toList word = true

theorem sameLetters_iff {a b : List Char} :
    sameLetters a b = true ↔ a.map Char.toLower = b.map Char.toLower :=
  beq_iff_eq

/-- In small letters too, a name is not taken for numbers and has no dot. -/
theorem lower_spelling : ∀ node ∈ nodes,
    looksNumeric (node.name.toList.map Char.toLower) = false ∧
      '.' ∉ node.name.toList.map Char.toLower := by
  decide +kernel

/-- No two nodes of the table have names that differ in case only. -/
theorem lower_nodup : (nodes.map fun node => node.name.toList.map Char.toLower).Nodup := by
  decide +kernel

theorem toLower_of_isDigit {c : Char} (digit : c.isDigit = true) : c.toLower = c := by
  rw [Char.isDigit_iff_toNat] at digit
  refine dif_neg fun capital => ?_
  exact absurd (Nat.le_trans (UInt32.le_iff_toNat_le.mp capital.1) digit.2) (by decide)

/-- Small letters are no more numeric than the letters they are for. -/
theorem looksNumeric_lower {word : List Char} (h : looksNumeric word = true) :
    looksNumeric (word.map Char.toLower) = true := by
  cases word with
  | nil => cases h
  | cons c rest =>
    have same : c.toLower = c := by
      rcases Bool.or_eq_true_iff.mp h with digit | dot
      · exact toLower_of_isDigit digit
      · rw [eq_of_beq dot]
        rfl
    rw [List.map_cons, same]
    exact h

section

variable {node other : Node} {word : List Char}

theorem Names.dot_not_mem (h : Names node word) : '.' ∉ word := by
  intro mem
  have small : '.' ∈ word.map Char.toLower := List.mem_map_of_mem (f := Char.toLower) mem
  rw [← sameLetters_iff.mp h.2] at small
  exact (lower_spelling node h.1).2 small

theorem Names.ne_nil (h : Names node word) : word ≠ [] := by
  rintro rfl
  have none := sameLetters_iff.mp h.2
  exact (name_spelling node h.1).1 (List.map_eq_nil_iff.mp none)

/-- What starts with a name is not `looksNumeric`, whatever comes after the name. -/
theorem Names.looksNumeric (h : Names node word) (tail : List Char) :
    looksNumeric (word ++ tail) = false := by
  have alone : Mib.looksNumeric word = false := by
    rw [Bool.eq_false_iff]
    intro numeric
    have small := looksNumeric_lower numeric
    rw [← sameLetters_iff.mp h.2, (lower_spelling node h.1).1] at small
    cases small
  obtain ⟨c, rest, rfl⟩ := List.exists_cons_of_ne_nil h.ne_nil
  exact alone

/-- A word names one node, by `lower_nodup`. -/
theorem Names.unique (h : Names node word) (h' : Names other word) : node = other :=
  List.inj_on_of_nodup_map lower_nodup h.1 h'.1
    ((sameLetters_iff.mp h.2).trans (sameLetters_iff.mp h'.2).symm)

/-- What `find?` yields has the name, in its own letters or in others. -/
theorem names_of_find? (h : find? word = some node) : Names node word := by
  rw [find?] at h
  split at h
  case h_1 exact found =>
    cases h
    have same := List.find?_some (p := fun node : Node => node.name.toList == word) found
    refine ⟨List.mem_of_find?_eq_some found, sameLetters_iff.mpr ?_⟩
    rw [eq_of_beq same]
  case h_2 =>
    exact ⟨List.mem_of_find?_eq_some h,
      List.find?_some (p := fun node : Node => sameLetters node.name.toList word) h⟩

/-- `find?` finds what a word `Names`: exactly spelt or not, there is only one node it can be
for. -/
theorem find?_eq_some_iff : find? word = some node ↔ Names node word := by
  refine ⟨names_of_find?, fun h => ?_⟩
  cases found : find? word with
  | some first => rw [(names_of_find? found).unique h]
  | none =>
    rw [find?] at found
    split at found
    case h_1 => cases found
    case h_2 => exact absurd h.2 (List.find?_eq_none.mp found node h.1)

end

/-! ## Forms -/

/-- The texts that stand for an object, with the arcs of the object. -/
inductive Spells : List Char → List UInt32 → Prop where
  | dotted {text : List Char} {arcs : List UInt32} (numbers : Oid.Dotted text arcs)
      (short : arcs.length ≤ Oid.maxArcs) : Spells text arcs
  | led {text : List Char} {arcs : List UInt32} (numbers : Oid.Dotted text arcs)
      (short : arcs.length ≤ Oid.maxArcs) : Spells ('.' :: text) arcs
  | name {node : Node} {word : List Char} (named : Names node word) : Spells word node.arcs
  | suffixed {node : Node} {word suffix : List Char} {arcs : List UInt32} (named : Names node word)
      (numbers : Oid.Dotted suffix arcs) (short : (node.arcs ++ arcs).length ≤ Oid.maxArcs) :
      Spells (word ++ '.' :: suffix) (node.arcs ++ arcs)

/-- A name and arcs, with two dots between them. -/
inductive DottedTwice : List Char → List UInt32 → Prop where
  | suffixed {node : Node} {word suffix : List Char} {arcs : List UInt32} (named : Names node word)
      (numbers : Oid.Dotted suffix arcs) (short : (node.arcs ++ arcs).length ≤ Oid.maxArcs) :
      DottedTwice (word ++ '.' :: '.' :: suffix) (node.arcs ++ arcs)

theorem looksNumeric_of_dotted {text : List Char} {arcs : List UInt32} (h : Oid.Dotted text arcs) :
    looksNumeric text = true := by
  obtain ⟨c, rest, rfl, digit⟩ := h.exists_digit
  rw [looksNumeric, digit, Bool.true_or]

/-- Two dots after a name are not among the forms that `Spells` has. -/
theorem DottedTwice.not_spells {text : List Char} {arcs arcs' : List UInt32}
    (h : DottedTwice text arcs) : ¬ Spells text arcs' := by
  obtain @⟨node, word, suffix, rest, named, -, -⟩ := h
  intro spells
  generalize written : word ++ '.' :: '.' :: suffix = text at spells
  cases spells with
  | dotted numbers' _ =>
    have numeric := looksNumeric_of_dotted numbers'
    rw [← written, named.looksNumeric] at numeric
    cases numeric
  | led _ _ =>
    have letters := named.looksNumeric ('.' :: '.' :: suffix)
    rw [written] at letters
    cases letters
  | name named' =>
    have dot : '.' ∈ text := by
      rw [← written]
      exact List.mem_append_right _ List.mem_cons_self
    exact named'.dot_not_mem dot
  | suffixed named' numbers' _ =>
    -- the second dot would have to start the arcs
    obtain ⟨-, rfl⟩ := Text.append_cons_inj named.dot_not_mem named'.dot_not_mem written
    obtain ⟨c, rest, start, digit⟩ := numbers'.exists_digit
    cases start
    exact absurd digit (by decide)

/-! ## Resolving -/

/-- The arcs after a name are read by `addSuffix` like a path of their own, where one dot in front
is dropped, and are then held to the limit together with those of the node. -/
theorem addSuffix_eq_ok_iff {text : String} {base oid : Oid} {suffix : List Char} :
    addSuffix text base suffix = .ok oid ↔
      ∃ arcs, Oid.Dotted (Oid.dropDot suffix) arcs ∧ base.extend arcs = oid ∧
        oid.length ≤ Oid.maxArcs := by
  rw [addSuffix]
  constructor
  · intro h
    split at h
    case h_1 => cases h
    case h_2 tail read =>
      have numbers := (Oid.parse_eq_ok_iff.mp read).1
      rw [String.toList_ofList] at numbers
      dsimp only at h
      split at h
      case h_1 => cases h
      case h_2 short =>
        cases h
        exact ⟨tail.arcs, numbers, rfl, (Oid.checkLength_eq_ok_iff _).mp short⟩
  · rintro ⟨arcs, numbers, rfl, short⟩
    -- what is short with the arcs of the node is short without them
    have few : (⟨arcs⟩ : Oid).length ≤ Oid.maxArcs := by
      rw [Oid.length, Oid.extend, List.length_append] at short
      exact Nat.le_trans (Nat.le_add_left _ _) short
    have read : Oid.parse (String.ofList suffix) = .ok ⟨arcs⟩ := by
      refine Oid.parse_eq_ok_iff.mpr ⟨?_, few⟩
      rw [String.toList_ofList]
      exact numbers
    simp only [read, (Oid.checkLength_eq_ok_iff _).mpr short]

section

variable {text : List Char} {oid : Oid}

theorem resolve_of_looksNumeric (numeric : looksNumeric text = true) :
    resolve (String.ofList text) = Oid.parse (String.ofList text) := by
  simp only [resolve, String.toList_ofList, numeric, if_true]

/-- A word without dots is resolved if it `Names` a node. -/
theorem resolve_of_word (letters : looksNumeric text = false) (plain : '.' ∉ text) :
    resolve (String.ofList text) = .ok oid ↔ ∃ node, Names node text ∧ node.arcs = oid.arcs := by
  simp only [resolve, String.toList_ofList, letters, Bool.false_eq_true, if_false,
    Text.splitFirst?_eq_none plain, ← find?_eq_some_iff]
  cases find? text with
  | none => simp
  | some node =>
    cases oid
    simp

/-- What comes after the first dot of a name goes to `addSuffix`. -/
theorem resolve_of_suffix {word suffix : List Char}
    (letters : looksNumeric (word ++ '.' :: suffix) = false) (plain : '.' ∉ word) :
    resolve (String.ofList (word ++ '.' :: suffix)) = .ok oid ↔
      ∃ node arcs, Names node word ∧ Oid.Dotted (Oid.dropDot suffix) arcs ∧
        node.arcs ++ arcs = oid.arcs ∧ oid.length ≤ Oid.maxArcs := by
  simp only [resolve, String.toList_ofList, letters, Bool.false_eq_true, if_false,
    Text.splitFirst?_append plain, ← find?_eq_some_iff]
  cases find? word with
  | none => simp
  | some node =>
    cases oid
    simp [addSuffix_eq_ok_iff, Oid.extend]

/-- What is resolved is written in one of the forms, or is dotted twice. The cases are those of
`resolve`: numbers, a word, a word and what comes after its first dot. -/
theorem spells_or_dottedTwice_of_resolve (h : resolve (String.ofList text) = .ok oid) :
    Spells text oid.arcs ∨ DottedTwice text oid.arcs := by
  by_cases numeric : looksNumeric text = true
  case pos =>
    rw [resolve_of_looksNumeric numeric, Oid.parse_eq_ok_iff, String.toList_ofList] at h
    obtain ⟨numbers, short⟩ := h
    rcases Oid.dotted_dropDot_iff.mp numbers with numbers | ⟨body, rfl, numbers⟩
    · exact .inl (.dotted numbers short)
    · exact .inl (.led numbers short)
  case neg =>
    have letters := Bool.eq_false_iff.mpr numeric
    by_cases dot : '.' ∈ text
    case neg =>
      obtain ⟨node, named, leads⟩ := (resolve_of_word letters dot).mp h
      rw [← leads]
      exact .inl (.name named)
    case pos =>
      obtain ⟨word, suffix, rfl, plain⟩ := List.eq_append_cons_of_mem dot
      obtain ⟨node, arcs, named, numbers, leads, short⟩ := (resolve_of_suffix letters plain).mp h
      rw [Oid.length, ← leads] at short
      rw [← leads]
      -- the dot that may start a path of its own may stand here as well
      rcases Oid.dotted_dropDot_iff.mp numbers with numbers | ⟨body, rfl, numbers⟩
      · exact .inl (.suffixed named numbers short)
      · exact .inr (.suffixed named numbers short)

/-- Each of the forms that `Spells` has is resolved to the object it stands for. -/
theorem resolve_of_spells {arcs : List UInt32} (h : Spells text arcs) :
    resolve (String.ofList text) = .ok ⟨arcs⟩ := by
  cases h with
  | dotted numbers short =>
    rw [resolve_of_looksNumeric (looksNumeric_of_dotted numbers), Oid.parse_eq_ok_iff,
      String.toList_ofList]
    exact ⟨Oid.dotted_dropDot_iff.mpr (.inl numbers), short⟩
  | led numbers short =>
    rw [resolve_of_looksNumeric rfl, Oid.parse_eq_ok_iff, String.toList_ofList]
    exact ⟨numbers, short⟩
  | name named =>
    have letters := named.looksNumeric []
    rw [List.append_nil] at letters
    exact (resolve_of_word letters named.dot_not_mem).mpr ⟨_, named, rfl⟩
  | suffixed named numbers short =>
    exact (resolve_of_suffix (named.looksNumeric _) named.dot_not_mem).mpr
      ⟨_, _, named, Oid.dotted_dropDot_iff.mpr (.inl numbers), rfl, short⟩

/-- So is what is `DottedTwice`, since `dropDot` takes the second dot. -/
theorem resolve_of_dottedTwice {arcs : List UInt32} (h : DottedTwice text arcs) :
    resolve (String.ofList text) = .ok ⟨arcs⟩ := by
  obtain ⟨named, numbers, short⟩ := h
  exact (resolve_of_suffix (named.looksNumeric _) named.dot_not_mem).mpr
    ⟨_, _, named, numbers, rfl, short⟩

end

/-- What `Spells` an object is resolved to it, and so is what is `DottedTwice`, a name with two dots
before the arcs. Nothing else is resolved. -/
theorem resolve_spelled_or_dottedTwice (text : String) (oid : Oid) :
    resolve text = .ok oid ↔ Spells text.toList oid.arcs ∨ DottedTwice text.toList oid.arcs := by
  rw [← String.ofList_toList (s := text)]
  simp only [String.toList_ofList]
  refine ⟨spells_or_dottedTwice_of_resolve, ?_⟩
  rintro (spells | twice)
  · exact resolve_of_spells spells
  · exact resolve_of_dottedTwice twice

/-- The form with two dots is none of the three, and is resolved all the same. -/
theorem resolve_sysDescr_dottedTwice :
    resolve "sysDescr..0" = .ok ⟨[1, 3, 6, 1, 2, 1, 1, 1, 0]⟩ ∧
      ∀ arcs, ¬ Spells "sysDescr..0".toList arcs := by
  have node : Names ⟨[1, 3, 6, 1, 2, 1, 1, 1], "sysDescr"⟩ "sysDescr".toList :=
    ⟨by decide, by decide +kernel⟩
  have zero : Oid.Dotted ['0'] [0] := .last (by decide)
  have twice : DottedTwice "sysDescr..0".toList [1, 3, 6, 1, 2, 1, 1, 1, 0] :=
    .suffixed node zero (by decide)
  exact ⟨resolve_of_dottedTwice twice, fun _ => twice.not_spells⟩

end SnmpManager.Mib
