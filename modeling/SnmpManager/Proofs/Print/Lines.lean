import SnmpManager.Print.Binding
import SnmpManager.Proofs.Mib.Rendered
import SnmpManager.Proofs.Text.Lines

/-!
# Lines of output

Each binding is printed with a line feed at its end. In the text format nothing else has a
line feed but an octet string shown as text, which keeps all that it has. So the lines of
the output are the bindings as long as no such string has one (`printBindings_lines`);
where one has, more lines are printed than there are bindings (`printBindings_breaks`).

- `Value.shownFeeds`: the line feeds of a value that its text keeps.
-/

namespace SnmpManager

/-! ## Objects -/

namespace Mib

/-- Neither a name nor an arc in decimal has a line feed. -/
theorem IsPart.lineFeed_not_mem {part : List Char} (h : IsPart part) : '\n' ∉ part := by
  obtain ⟨node, mem, rfl⟩ | ⟨arc, rfl⟩ := h
  · exact (name_spelling node mem).2.2.2
  · exact List.count_eq_zero.mp (count_toDigits arc.toNat)

/-- The `parts` of a rendered object have no line feeds, and the dots are none. -/
@[simp] theorem lineFeeds_render (mode : LookupMode) (oid : Oid) :
    lineFeeds (render mode oid) = 0 := by
  rw [render, lineFeeds_ofList, List.count_eq_zero, renderChars_eq]
  exact not_mem_intercalate (by decide) fun part mem =>
    ((leads_parts mode oid).areParts part mem).lineFeed_not_mem

end Mib

/-! ## Values -/

@[simp] theorem Ipv4.lineFeeds_text (addr : Ipv4) : lineFeeds addr.text = 0 := by
  show lineFeeds (toString addr.a.toNat ++ "." ++ toString addr.b.toNat ++ "." ++
    toString addr.c.toNat ++ "." ++ toString addr.d.toNat) = 0
  simp only [lineFeeds_append, lineFeeds_nat]
  rfl

@[simp] theorem TimeTicks.lineFeeds_text (ticks : UInt32) : lineFeeds (text ticks) = 0 := by
  rw [text]
  split <;> simp only [lineFeeds_append, lineFeeds_nat, lineFeeds_padded] <;> rfl

namespace Value

/-- The line feeds of a value that its text keeps: those of an octet string shown as text. -/
def shownFeeds (strings : StringMode) : Value → Nat
  | .octetString content => if shownAsText strings content then content.count 0x0A else 0
  | _ => 0

theorem lineFeeds_withHint (options : OutputOptions) {type : String} (h : lineFeeds type = 0)
    (body : String) : lineFeeds (withHint options type body) = lineFeeds body := by
  rw [withHint]
  split
  case isTrue =>
    rw [lineFeeds_append, lineFeeds_append, h]
    exact Nat.zero_add _
  case isFalse => rfl

/-- The text of a value has no line feeds but its `shownFeeds`. -/
theorem lineFeeds_print (options : OutputOptions) (value : Value) :
    lineFeeds (value.print options) = value.shownFeeds options.strings := by
  cases value with
  | octetString content =>
    rw [print, shownFeeds]
    -- only text keeps its line feeds; hex has none
    split
    case isTrue =>
      rw [lineFeeds_withHint options rfl, lineFeeds_append, lineFeeds_append, lossyText,
        lineFeeds_ofList (Utf8.decodeLossy content), Utf8.count_decodeLossy]
      exact Nat.zero_add _
    case isFalse => rw [lineFeeds_withHint options rfl, lineFeeds_upperHex]
  | null | noSuchObject | noSuchInstance | endOfMibView =>
    rw [print]
    rfl
  | objectIdentifier oid => rw [print, lineFeeds_withHint options rfl, Mib.lineFeeds_render]; rfl
  | ipAddress addr => rw [print, lineFeeds_withHint options rfl, Ipv4.lineFeeds_text]; rfl
  | integer n => exact (lineFeeds_withHint options rfl _).trans (lineFeeds_int n.toInt)
  | counter32 n | gauge32 n | counter64 n =>
    exact (lineFeeds_withHint options rfl _).trans (lineFeeds_nat n.toNat)
  | opaqueData content =>
    exact (lineFeeds_withHint options rfl _).trans (lineFeeds_upperHex content)
  | timeTicks n =>
    rw [print]
    split
    case isTrue =>
      show lineFeeds ("Timeticks: (" ++ toString n.toNat ++ ") " ++ TimeTicks.text n) = 0
      simp only [lineFeeds_append, lineFeeds_nat, TimeTicks.lineFeeds_text]
      rfl
    case isFalse => exact lineFeeds_nat n.toNat
  | unknown tag content =>
    rw [print, lineFeeds_withHint, lineFeeds_upperHex]
    · rfl
    · show lineFeeds ("Unknown(0x" ++ Octets.upperHexByte tag ++ ")") = 0
      simp only [lineFeeds_append, lineFeeds_upperHexByte]
      rfl

end Value

/-! ## Bindings -/

/-- Neither the object nor what stands between it and the value has line feeds. -/
theorem VarBind.lineFeeds_print {options : OutputOptions} (text : options.format = .text)
    (binding : VarBind) :
    lineFeeds (binding.print options) = binding.value.shownFeeds options.strings := by
  rw [print, text, ← Value.lineFeeds_print options]
  dsimp only
  split
  case isTrue => rfl
  case isFalse =>
    -- with an equals sign or without, the object has no line feed
    split
    all_goals
      simp only [lineFeeds_append, Mib.lineFeeds_render]
      exact Nat.zero_add _

theorem VarBind.lineFeeds_line {options : OutputOptions} (text : options.format = .text)
    (binding : VarBind) :
    lineFeeds (binding.line options) = 1 + binding.value.shownFeeds options.strings := by
  rw [line, lineFeeds_append, lineFeeds_print text, Nat.add_comm]
  rfl

/-- `printBindings` prints each binding with a line feed at its end. -/
theorem toList_printBindings (options : OutputOptions) (bindings : List VarBind) :
    (printBindings options bindings).toList
      = (bindings.map fun binding => (binding.print options).toList).flatMap (· ++ ['\n']) := by
  have ends (binding : VarBind) : (binding.line options).toList
      = (binding.print options).toList ++ ['\n'] := String.toList_append
  rw [printBindings, String.toList_join, List.flatMap_map, List.flatMap_map]
  simp only [ends]

/-- As many line feeds are printed as there are bindings, and those that octet strings shown as text
keep, their `shownFeeds`. If there are none of these, the lines are the bindings in order. -/
theorem printBindings_lines {options : OutputOptions} (text : options.format = .text)
    (bindings : List VarBind) :
    lineFeeds (printBindings options bindings) = bindings.length +
        (bindings.map fun binding => binding.value.shownFeeds options.strings).sum ∧
      ((∀ binding ∈ bindings, binding.value.shownFeeds options.strings = 0) →
        (printBindings options bindings).toList.splitOn '\n'
          = (bindings.map fun binding => (binding.print options).toList) ++ [[]]) := by
  refine ⟨?_, fun none => ?_⟩
  · rw [printBindings, lineFeeds_join, List.map_map]
    induction bindings with
    | nil => rfl
    | cons binding rest ih =>
      simp only [List.map_cons, List.sum_cons, List.length_cons, Function.comp_apply,
        VarBind.lineFeeds_line text, ih]
      omega
  · rw [toList_printBindings, splitOn_lines]
    intro line mem
    obtain ⟨binding, printed, rfl⟩ := List.mem_map.mp mem
    refine List.count_eq_zero.mp ?_
    rw [← none binding printed]
    exact VarBind.lineFeeds_print text binding

/-- One string in hex, for all that it has a line feed, and one as text: two lines. -/
theorem printBindings_lines_two :
    let options : OutputOptions := { lookup := .numeric }
    let bindings : List VarBind :=
      [⟨⟨[1, 3, 6]⟩, .octetString [0x0A, 0xC3]⟩, ⟨⟨[1, 4]⟩, .octetString [0x67, 0x77]⟩]
    options.format = .text ∧ lineFeeds (printBindings options bindings) = 2 ∧
      (printBindings options bindings).toList.splitOn '\n'
        = ["1.3.6 = Hex-STRING: 0A C3".toList, "1.4 = STRING: \"gw\"".toList, []] := by
  intro options bindings
  have text : options.format = .text := rfl
  obtain ⟨count, lines⟩ := printBindings_lines text bindings
  exact ⟨text, count.trans (by decide), (lines (by decide)).trans (by decide +kernel)⟩

/-- A text of two lines is printed as two. -/
theorem printBindings_breaks :
    ¬ ∀ (options : OutputOptions) (bindings : List VarBind), options.format = .text →
      lineFeeds (printBindings options bindings) = bindings.length := by
  intro one
  have text : ({} : OutputOptions).format = .text := rfl
  have lines := one {} [⟨⟨[1, 3, 6, 1, 2, 1, 1, 1, 0]⟩, .octetString [0x61, 0x0A, 0x62]⟩] text
  rw [printBindings, lineFeeds_join] at lines
  simp only [List.map_cons, List.map_nil, VarBind.lineFeeds_line text] at lines
  exact absurd lines (by decide)

end SnmpManager
