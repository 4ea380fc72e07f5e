import Mathlib.Data.List.Forall2
import SnmpManager.Proofs.Print.Lines
import SnmpManager.Proofs.Text.Json

/-!
# Lines of JSON

In the JSON format each binding is one line, whatever an agent put into it: a line feed in a
string is escaped, and nothing else has one. What is in the line is read back, key by key and
character by character (`printBindings_json`).

- `VarBind.ReadFrom`: what a reader of JSON finds in a line.
- `Value.number?`: the number a value holds, whatever its width.
-/

namespace SnmpManager

/-! ## No line feeds -/

namespace Json

/-- A line feed is escaped by `escape`, and no escape has one. -/
theorem lineFeed_not_mem_escape (c : Char) : '\n' ∉ escape c := by
  -- the last case is the only one that writes the character itself
  fun_cases escape c
  case case1 | case2 | case3 | case4 | case5 | case6 | case7 => decide
  case case8 control =>
    rw [List.mem_append, not_or]
    exact ⟨by decide, Octets.not_mem_hexPair (.inr rfl) (by decide) _⟩
  case case9 lineFeed _ _ _ =>
    rw [List.mem_singleton]
    exact Ne.symm lineFeed

/-- Between its quotes a string is one `escape` after another. -/
theorem lineFeed_not_mem_quote (text : List Char) : '\n' ∉ quote text := by
  have escaped : '\n' ∉ text.flatMap escape := by
    rw [List.mem_flatMap]
    rintro ⟨c, -, mem⟩
    exact lineFeed_not_mem_escape c mem
  simp only [quote, List.mem_cons, List.mem_append, List.not_mem_nil, or_false, not_or]
  exact ⟨by decide, escaped, by decide⟩

theorem lineFeed_not_mem_write (value : Scalar) : '\n' ∉ value.write := by
  cases value with
  | null => decide
  | string text => exact lineFeed_not_mem_quote text
  | number n => exact List.count_eq_zero.mp (lineFeeds_int n)

theorem lineFeed_not_mem_object (fields : List (String × Scalar)) : '\n' ∉ object fields := by
  have inside : '\n' ∉ members fields := by
    refine not_mem_intercalate (by decide) fun part mem => ?_
    obtain ⟨field, -, rfl⟩ := List.mem_map.mp mem
    simp only [member, List.mem_append, List.mem_singleton, not_or]
    exact ⟨⟨lineFeed_not_mem_quote _, by decide⟩, lineFeed_not_mem_write _⟩
  have written : object fields = '\x7b' :: (members fields ++ ['\x7d']) := rfl
  simp only [written, List.mem_cons, List.mem_append, List.not_mem_nil, or_false, not_or]
  exact ⟨by decide, inside, by decide⟩

end Json

/-! ## What is read -/

/-- The number a value holds, whatever its width. -/
def Value.number? : Value → Option Int
  | .integer n => some n.toInt
  | .counter32 n | .gauge32 n | .timeTicks n => some n.toNat
  | .counter64 n => some n.toNat
  | _ => none

/-- A number is the same in JSON for every value that has a `number?`, and no options change it. -/
theorem Value.json_of_number? {value : Value} {n : Int} (h : value.number? = some n)
    (options : OutputOptions) : value.json options = .number n := by
  cases value with
  | integer _ | counter32 _ | gauge32 _ | timeTicks _ | counter64 _ =>
    cases h
    rfl
  | octetString _ | null | objectIdentifier _ | ipAddress _ | opaqueData _ | noSuchObject
  | noSuchInstance | endOfMibView | unknown _ _ => cases h

/-- A reader finds a binding in a line: its object, its type and its value under these keys and no
others, a number as it is. -/
structure VarBind.ReadFrom (options : OutputOptions) (binding : VarBind) (line : List Char) :
    Prop where
  members : Json.object? line = some
    [("oid", .string (Mib.render options.lookup binding.oid).toList),
      ("type", .string (binding.value.jsonType options).toList),
      ("value", binding.value.json options)]
  number : ∀ n, binding.value.number? = some n → binding.value.json options = .number n

/-- The line of a binding is read by `Json.object?`, which takes back what was escaped. -/
theorem VarBind.readFrom_json (options : OutputOptions) (binding : VarBind) :
    binding.ReadFrom options (binding.json options).toList := by
  constructor
  · rw [json, String.toList_ofList, Json.object?_object, jsonFields, Mib.render,
      String.toList_ofList]
  · intro n holds
    exact Value.json_of_number? holds options

/-- As many lines are printed as there are bindings, each is ended by its line feed and has no
other, and each binding is `ReadFrom` its line. -/
theorem printBindings_json {options : OutputOptions} (json : options.format = .json)
    (bindings : List VarBind) :
    lineFeeds (printBindings options bindings) = bindings.length ∧
      ∃ lines, (printBindings options bindings).toList.splitOn '\n' = lines ++ [[]] ∧
        List.Forall₂ (VarBind.ReadFrom options) bindings lines := by
  have print (binding : VarBind) : binding.print options = binding.json options := by
    rw [VarBind.print, json]
  have whole : ∀ line ∈ bindings.map fun binding => (binding.print options).toList,
      '\n' ∉ line := by
    intro line mem
    obtain ⟨binding, -, rfl⟩ := List.mem_map.mp mem
    rw [print, VarBind.json, String.toList_ofList]
    exact Json.lineFeed_not_mem_object _
  refine ⟨?_, bindings.map fun binding => (binding.print options).toList, ?_, ?_⟩
  · rw [lineFeeds, toList_printBindings, count_lines whole, List.length_map]
  · rw [toList_printBindings]
    exact splitOn_lines whole
  · rw [List.forall₂_map_right_iff, List.forall₂_same]
    intro binding _
    rw [print]
    exact binding.readFrom_json options

/-- A string with a quote, a backslash, a line feed and an accent, and the largest counter. -/
theorem printBindings_json_escaped :
    let options : OutputOptions := { format := .json, strings := .ascii, lookup := .numeric }
    let bindings : List VarBind :=
      [⟨⟨[1, 3, 6]⟩, .octetString [0x22, 0x5C, 0x0A, 0xC3, 0xA9]⟩,
        ⟨⟨[2, 5]⟩, .counter64 18446744073709551615⟩]
    let lines : List (List Char) :=
      ["\x7b\"oid\":\"1.3.6\",\"type\":\"STRING\",\"value\":\"\\\"\\\\\\né\"\x7d".toList,
        "\x7b\"oid\":\"2.5\",\"type\":\"Counter64\",\"value\":18446744073709551615\x7d".toList]
    options.format = .json ∧
      (printBindings options bindings).toList.splitOn '\n' = lines ++ [[]] ∧
      List.Forall₂ (VarBind.ReadFrom options) bindings lines := by
  intro options bindings lines
  have json : options.format = .json := rfl
  have printed : (printBindings options bindings).toList.splitOn '\n' = lines ++ [[]] := by
    decide +kernel
  obtain ⟨-, found, cut, read⟩ := printBindings_json json bindings
  rw [printed] at cut
  obtain rfl : lines = found := List.append_cancel_right cut
  exact ⟨json, printed, read⟩

end SnmpManager
