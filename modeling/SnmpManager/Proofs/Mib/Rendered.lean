import Mathlib.Logic.Function.Basic
import SnmpManager.Mib.Name
import SnmpManager.Proofs.Oid.Dotted

/-!
# Rendered objects

Whatever way an object is written in, it is a series of parts between dots, each the
name of a node or an arc in decimal. A name says where it leads, wherever it stands,
so one reader follows the parts of all three ways back to the object.

- `Mib.parts`: the parts of a rendered object; `Mib.Leads`: where parts lead to.
- `Mib.follow`, `Mib.pathOf`: the reader. It is the same for all ways, and knows no limit
  on the number of arcs.
- `Mib.pathOf_renderChars`: the reader finds the object; so no two objects are written
  alike (`Mib.render_injective`).
- `Mib.resolve_render`: what has at most one name, and that in front, is resolved to the
  object it was written for.
-/

namespace SnmpManager.Mib

/-! ## Names -/

/-- The node with exactly this name. -/
def named? (part : List Char) : Option Node :=
  nodes.find? fun node => node.name.toList == part

theorem named?_name : ∀ node ∈ nodes, named? node.name.toList = some node := by
  decide +kernel

/-- A name is not taken for numbers by `looksNumeric`, and has no dot and no line feed. -/
theorem name_spelling : ∀ node ∈ nodes, node.name.toList ≠ [] ∧
    looksNumeric node.name.toList = false ∧ '.' ∉ node.name.toList ∧
    '\n' ∉ node.name.toList := by
  decide +kernel

/-- What `looksNumeric` is no name. -/
theorem named?_of_looksNumeric {part : List Char} (h : looksNumeric part = true) :
    named? part = none := by
  refine List.find?_eq_none.mpr fun node mem same => ?_
  rw [← eq_of_beq same, (name_spelling node mem).2.1] at h
  cases h

/-- A name in its own letters is found by the first of the two searches of `find?`. -/
theorem find?_of_named? {part : List Char} {node : Node} (h : named? part = some node) :
    find? part = some node := by
  rw [find?, show nodes.find? (fun node => node.name.toList == part) = some node from h]

/-- What `nameOf?` finds is the name of the node with these arcs. -/
theorem node_of_nameOf? {arcs : List UInt32} {name : String} (h : nameOf? arcs = some name) :
    ∃ node ∈ nodes, node.arcs = arcs ∧ node.name = name := by
  obtain ⟨node, found, rfl⟩ := Option.map_eq_some_iff.mp h
  exact ⟨node, List.mem_of_find?_eq_some found,
    eq_of_beq (List.find?_some (p := fun node : Node => node.arcs == arcs) found), rfl⟩

/-- The longest named path, as `longestNamed` finds it, and what is beyond it make up the whole. -/
theorem node_of_longestNamed {path arcs rest : List UInt32} {name : String}
    (h : longestNamed path arcs = some (name, rest)) :
    ∃ node ∈ nodes, node.name = name ∧ node.arcs ++ rest = path ++ arcs := by
  induction arcs generalizing path with
  | nil => cases h
  | cons arc arcs ih =>
    rw [longestNamed] at h
    split at h
    case h_1 deeper =>
      cases h
      obtain ⟨node, mem, named, whole⟩ := ih deeper
      exact ⟨node, mem, named, by rw [whole, List.append_assoc, List.singleton_append]⟩
    case h_2 =>
      obtain ⟨_, here, found⟩ := Option.map_eq_some_iff.mp h
      cases found
      obtain ⟨node, mem, leads, named⟩ := node_of_nameOf? here
      exact ⟨node, mem, named, by rw [leads, List.append_assoc, List.singleton_append]⟩

/-! ## Parts -/

/-- A part is the name of a node, or an arc. -/
def IsPart (part : List Char) : Prop :=
  (∃ node ∈ nodes, part = node.name.toList) ∨ ∃ arc, part = arcChars arc

theorem IsPart.dot_not_mem {part : List Char} (h : IsPart part) : '.' ∉ part := by
  obtain ⟨node, mem, rfl⟩ | ⟨arc, rfl⟩ := h
  · exact (name_spelling node mem).2.2.1
  · exact Oid.dot_not_mem_toDigits arc.toNat

/-- Go on from a path: a name leads to its own node, and an arc one step down. -/
def follow (path : List UInt32) (part : List Char) : List UInt32 :=
  match named? part with
  | some node => node.arcs
  | none => path ++ (Oid.arc? part).toList

/-- A name leads to its node, wherever it stands. -/
theorem follow_name {node : Node} (mem : node ∈ nodes) (path : List UInt32) :
    follow path node.name.toList = node.arcs := by
  rw [follow, named?_name node mem]

theorem looksNumeric_arcChars (arc : UInt32) : looksNumeric (arcChars arc) = true := by
  obtain ⟨c, rest, written, digit⟩ := Decimal.exists_digit_toDigits arc.toNat
  rw [arcChars, written, looksNumeric, digit, Bool.true_or]

/-- An arc leads one step down, since no arc is a name. -/
theorem follow_arcChars (arc : UInt32) (path : List UInt32) :
    follow path (arcChars arc) = path ++ [arc] := by
  have number : Oid.arc? (arcChars arc) = some arc := Oid.arc?_toDigits arc
  rw [follow, named?_of_looksNumeric (looksNumeric_arcChars arc), number]
  rfl

/-- What stands between the dots of a rendered object. -/
def parts (mode : LookupMode) (oid : Oid) : List (List Char) :=
  match mode with
  | .numeric => oid.arcs.map arcChars
  | .short =>
    match longestNamed [] oid.arcs with
    | some (name, rest) => name.toList :: rest.map arcChars
    | none => oid.arcs.map arcChars
  | .full => fullParts [] oid.arcs

theorem intercalate_cons_eq (sep : Char) (part : List Char) (rest : List (List Char)) :
    [sep].intercalate (part :: rest) = part ++ rest.flatMap (sep :: ·) := by
  induction rest generalizing part with
  | nil => simp [List.intercalate]
  | cons next rest ih =>
    rw [List.intercalate_cons_of_ne_nil (List.cons_ne_nil next rest), ih next,
      List.flatMap_cons, List.append_assoc]
    rfl

/-- What `renderChars` writes are the `parts`, with dots between. -/
theorem renderChars_eq (mode : LookupMode) (oid : Oid) :
    renderChars mode oid = ['.'].intercalate (parts mode oid) := by
  cases mode with
  | numeric | full => rfl
  | short =>
    rw [renderChars, shortChars, parts]
    cases longestNamed [] oid.arcs with
    | none => rfl
    | some found =>
      dsimp only
      rw [intercalate_cons_eq, List.flatMap_map]

/-- Parts that are parts, and `follow` leads along them from one path to another. -/
structure Leads (parts : List (List Char)) (start finish : List UInt32) : Prop where
  areParts : ∀ part ∈ parts, IsPart part
  follows : parts.foldl follow start = finish

theorem leads_nil (path : List UInt32) : Leads [] path path :=
  ⟨fun _ mem => absurd mem List.not_mem_nil, rfl⟩

section

variable {parts : List (List Char)} {path finish : List UInt32}

theorem Leads.cons {part : List Char} (isPart : IsPart part)
    (h : Leads parts (follow path part) finish) : Leads (part :: parts) path finish :=
  ⟨List.forall_mem_cons.mpr ⟨isPart, h.areParts⟩, h.follows⟩

theorem Leads.name {node : Node} (mem : node ∈ nodes) (h : Leads parts node.arcs finish) :
    Leads (node.name.toList :: parts) path finish := by
  refine .cons (.inl ⟨node, mem, rfl⟩) ?_
  rw [follow_name mem]
  exact h

theorem Leads.arc {arc : UInt32} (h : Leads parts (path ++ [arc]) finish) :
    Leads (arcChars arc :: parts) path finish := by
  refine .cons (.inr ⟨arc, rfl⟩) ?_
  rw [follow_arcChars]
  exact h

end

/-- Arcs in decimal lead down from a path one by one. -/
theorem leads_arcs (path arcs : List UInt32) :
    Leads (arcs.map arcChars) path (path ++ arcs) := by
  induction arcs generalizing path with
  | nil =>
    rw [List.append_nil]
    exact leads_nil path
  | cons arc arcs ih =>
    have deeper := ih (path ++ [arc])
    rw [List.append_assoc, List.singleton_append] at deeper
    exact deeper.arc

/-- The parts of the full form lead down as well: each is a name for the path so far or an arc. -/
theorem leads_fullParts (path arcs : List UInt32) :
    Leads (fullParts path arcs) path (path ++ arcs) := by
  induction arcs generalizing path with
  | nil =>
    rw [List.append_nil]
    exact leads_nil path
  | cons arc arcs ih =>
    have deeper := ih (path ++ [arc])
    rw [List.append_assoc, List.singleton_append] at deeper
    rw [fullParts]
    -- named or not, the part leads to the path that the rest goes on from
    split
    case h_1 name found =>
      obtain ⟨node, mem, leads, rfl⟩ := node_of_nameOf? found
      rw [← leads] at deeper ⊢
      exact deeper.name mem
    case h_2 => exact deeper.arc

/-- The parts of an object lead to it from the root, in any mode. -/
theorem leads_parts (mode : LookupMode) (oid : Oid) : Leads (parts mode oid) [] oid.arcs := by
  cases mode with
  | numeric => exact leads_arcs [] oid.arcs
  | full => exact leads_fullParts [] oid.arcs
  | short =>
    rw [parts]
    split
    case h_1 name rest found =>
      obtain ⟨node, mem, rfl, whole⟩ := node_of_longestNamed found
      rw [List.nil_append] at whole
      rw [← whole]
      exact (leads_arcs node.arcs rest).name mem
    case h_2 => exact leads_arcs [] oid.arcs

/-- The path that the parts of a text lead to from the root. -/
def pathOf (text : List Char) : List UInt32 :=
  (text.splitOn '.').foldl follow []

/-- An object is found from its text by `pathOf`, in whatever way it is written. -/
theorem pathOf_renderChars (mode : LookupMode) (oid : Oid) :
    pathOf (renderChars mode oid) = oid.arcs := by
  obtain ⟨areParts, leads⟩ := leads_parts mode oid
  rw [renderChars_eq]
  by_cases none : parts mode oid = []
  case pos =>
    rw [none] at leads ⊢
    rw [← leads]
    decide +kernel
  case neg =>
    rw [pathOf, List.splitOn_intercalate '.' (fun part mem => (areParts part mem).dot_not_mem) none]
    exact leads

/-- `pathOf` is a left inverse of `render`, which does not ask for the mode. -/
theorem render_injective (mode : LookupMode) : Function.Injective (render mode) := by
  intro a b same
  have arcs := congrArg pathOf (String.ofList_injective same)
  rw [pathOf_renderChars, pathOf_renderChars] at arcs
  cases a
  cases b
  exact congrArg Oid.mk arcs

/-! ## Resolving -/

/-- An object in numbers is resolved by `Oid.parse`, since its text looks like numbers. -/
theorem resolve_text {oid : Oid} (filled : oid.arcs ≠ []) (short : oid.length ≤ Oid.maxArcs) :
    resolve oid.text = .ok oid := by
  obtain ⟨c, rest, written, digit⟩ := Oid.exists_digit_chars filled
  have numeric : looksNumeric oid.text.toList = true := by
    rw [Oid.text, String.toList_ofList, written, looksNumeric, digit, Bool.true_or]
  rw [resolve]
  simp only [numeric, if_true]
  exact Oid.parse_text filled short

/-- A name, and arcs after it, are resolved by `resolve` to the node and the arcs. -/
theorem resolve_name {node : Node} (mem : node ∈ nodes) {rest : List UInt32}
    (short : (node.arcs ++ rest).length ≤ Oid.maxArcs) :
    resolve (String.ofList (node.name.toList ++ rest.flatMap fun arc => '.' :: arcChars arc))
      = .ok ⟨node.arcs ++ rest⟩ := by
  obtain ⟨spelled, letters, noDot, -⟩ := name_spelling node mem
  have found := find?_of_named? (named?_name node mem)
  obtain ⟨c, more, spelled⟩ := List.exists_cons_of_ne_nil spelled
  have named (tail : List Char) : looksNumeric (node.name.toList ++ tail) = false := by
    rw [spelled] at letters ⊢
    exact letters
  rw [resolve, String.toList_ofList]
  simp only [named, Bool.false_eq_true, if_false]
  cases rest with
  | nil =>
    simp only [List.flatMap_nil, List.append_nil, Text.splitFirst?_eq_none noDot, found]
  | cons arc rest =>
    -- what is after the first dot is the text of the path that the other arcs make
    have suffix : (arc :: rest).flatMap (fun arc => '.' :: arcChars arc)
        = '.' :: (⟨arc :: rest⟩ : Oid).chars := by
      have whole := intercalate_cons_eq '.' (arcChars arc) (rest.map arcChars)
      rw [List.flatMap_map] at whole
      rw [List.flatMap_cons, List.cons_append, ← whole]
      rfl
    have few : (⟨arc :: rest⟩ : Oid).length ≤ Oid.maxArcs := by
      rw [List.length_append] at short
      exact Nat.le_trans (Nat.le_add_left _ _) short
    have tail := Oid.parse_text (List.cons_ne_nil arc rest) few
    have fits := (Oid.checkLength_eq_ok_iff ⟨node.arcs ++ arc :: rest⟩).mpr short
    rw [Oid.text] at tail
    simp only [suffix, Text.splitFirst?_append noDot, found, addSuffix, tail, Oid.extend, fits]

/-- An object with at most one name in front is resolved from its text, as `resolve_name` or
`resolve_text` has it. -/
theorem resolve_render {mode : LookupMode} (h : mode = .short ∨ mode = .numeric) {oid : Oid}
    (filled : 1 ≤ oid.length) (short : oid.length ≤ Oid.maxArcs) :
    resolve (render mode oid) = .ok oid := by
  have arcs : oid.arcs ≠ [] := List.ne_nil_of_length_pos filled
  obtain rfl | rfl := h
  · rw [render, renderChars, shortChars]
    split
    case h_1 name rest found =>
      obtain ⟨node, mem, rfl, whole⟩ := node_of_longestNamed found
      rw [List.nil_append] at whole
      rw [resolve_name mem (by rw [whole]; exact short), whole]
    case h_2 => exact resolve_text arcs short
  · exact resolve_text arcs short

/-- Objects and their texts say the same: a text with at most one name in front is resolved to the
object it was written for, and in each `LookupMode` no two objects are written alike. -/
theorem texts_faithful :
    (∀ mode, mode = .short ∨ mode = .numeric → ∀ oid : Oid, 1 ≤ oid.length →
      oid.length ≤ Oid.maxArcs → resolve (render mode oid) = .ok oid) ∧
    ∀ mode, Function.Injective (render mode) :=
  ⟨fun _ h _ => resolve_render h, render_injective⟩

/-- A counter of an interface with the largest index there is. -/
theorem texts_faithful_counter :
    let oid : Oid := ⟨[1, 3, 6, 1, 2, 1, 2, 2, 1, 10, 4294967295]⟩
    render .short oid = "ifInOctets.4294967295" ∧
      resolve "ifInOctets.4294967295" = .ok oid ∧
      render .full oid ≠ render .full ⟨[1, 3, 6, 1, 2, 1, 2, 2, 1, 10]⟩ := by
  intro oid
  have written : render .short oid = "ifInOctets.4294967295" := by decide +kernel
  refine ⟨written, ?_, fun same => ?_⟩
  · rw [← written]
    exact texts_faithful.1 .short (.inl rfl) oid (by decide) (by decide)
  · exact absurd (texts_faithful.2 .full same) (by decide)

end SnmpManager.Mib
