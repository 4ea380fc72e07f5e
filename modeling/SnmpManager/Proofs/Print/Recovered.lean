import SnmpManager.Print.Value
import SnmpManager.Proofs.Mib.Rendered
import SnmpManager.Proofs.Net.Ipv4
import SnmpManager.Proofs.Text.Hex
import SnmpManager.Proofs.Text.Utf8

/-!
# Values recovered from their text

With types in front, the text of a value says which value it is: no two values are printed
alike, in whatever way objects are written. Octet strings have to be printed in hex where
they are no printable ASCII, since other text does not keep its octets.

- `Value.typeOf`, `Value.bodyOf`: a text is divided at its first colon, and no type has one.
- `Value.ofPrinted?`: the reader. It does not ask how the text was printed.
- `Value.ascii_of_isPrintable`: printable text is ASCII, which is shown as it is, so that its octets
  are found between the quotes.
- `Value.ofPrinted?_print`: the value is found in its text.
-/

namespace SnmpManager

namespace Value

/-- What is `isPrintableChar` is ASCII. -/
theorem ascii_of_isPrintableChar {c : Char} (h : isPrintableChar c = true) : c.toNat < 0x80 := by
  simp only [isPrintableChar, Bool.or_eq_true, Bool.and_eq_true, decide_eq_true_eq,
    List.contains_iff_mem, List.mem_cons, List.not_mem_nil, or_false] at h
  rcases h with ⟨_, high⟩ | rfl | rfl | rfl | rfl | rfl
  · exact Nat.lt_of_le_of_lt (Char.le_def.mp high) (by decide)
  all_goals decide

/-- Printable octets are ASCII, since they decode to printable characters. -/
theorem ascii_of_isPrintable {content : Octets} (h : isPrintable content = true) :
    ∀ b ∈ content, b < 0x80 := by
  rw [isPrintable] at h
  split at h
  case h_1 chars read =>
    exact Utf8.ascii_of_decode? read fun c mem =>
      ascii_of_isPrintableChar (List.all_eq_true.mp h c mem)
  case h_2 => cases h

/-! ## The reader -/

/-- What stands before the first colon of a text, or all of it. -/
def typeOf (text : List Char) : List Char :=
  text.takeWhile (· ≠ ':')

/-- What stands after the first colon and the blank behind it. -/
def bodyOf (text : List Char) : List Char :=
  (text.dropWhile (· ≠ ':')).drop 2

/-- The octets of ASCII between quotes. -/
def unquote (body : List Char) : Octets :=
  body.tail.dropLast.map fun c => UInt8.ofNat c.toNat

/-- The tag that a type without a meaning names in hex, after `Unknown(0x`. -/
def unknownTag? (type : List Char) : Option UInt8 :=
  match Octets.ofHex? ((type.drop 10).take 2) with
  | some [tag] => some tag
  | _ => none

/-- The value whose text has this type and this body. -/
def ofTyped? (type : String) (body : List Char) : Option Value :=
  match type with
  | "INTEGER" => (Decimal.signed? Decimal.half64 body).map fun n => .integer (Int64.ofInt n)
  | "STRING" => some (.octetString (unquote body))
  | "Hex-STRING" => (Octets.ofHex? body).map .octetString
  | "NULL" => some .null
  | "OID" => some (.objectIdentifier ⟨Mib.pathOf body⟩)
  | "IpAddress" => (Ipv4.parse? body).map .ipAddress
  | "Counter32" => (Decimal.nat? body).map fun n => .counter32 (UInt32.ofNat n)
  | "Gauge32" => (Decimal.nat? body).map fun n => .gauge32 (UInt32.ofNat n)
  | "Timeticks" =>
    (Decimal.nat? (body.tail.takeWhile Char.isDigit)).map fun n => .timeTicks (UInt32.ofNat n)
  | "Opaque" => (Octets.ofHex? body).map .opaqueData
  | "Counter64" => (Decimal.nat? body).map fun n => .counter64 (UInt64.ofNat n)
  | "noSuchObject" => some .noSuchObject
  | "noSuchInstance" => some .noSuchInstance
  | "endOfMibView" => some .endOfMibView
  | _ => do
    let tag ← unknownTag? type.toList
    let content ← Octets.ofHex? body
    return .unknown tag content

/-- The value that a text with its type in front stands for. -/
def ofPrinted? (text : String) : Option Value :=
  ofTyped? (String.ofList (typeOf text.toList)) (bodyOf text.toList)

/-! ## Types and bodies -/

section

variable {type : List Char} (plain : ':' ∉ type) (rest : List Char)

include plain

theorem typeOf_append : typeOf (type ++ rest) = type ++ typeOf rest :=
  List.takeWhile_append_of_pos fun _ mem => decide_eq_true fun same => plain (same ▸ mem)

theorem bodyOf_append : bodyOf (type ++ rest) = bodyOf rest := by
  have whole : ∀ c ∈ type, decide (c ≠ ':') = true :=
    fun c mem => decide_eq_true fun same => plain (same ▸ mem)
  rw [bodyOf, List.dropWhile_append_of_pos whole, bodyOf]

end

/-- A text with a type in front is read by the rule of the type, `ofTyped?`. -/
theorem ofPrinted?_append {type : String} (plain : ':' ∉ type.toList) {text : String}
    {rest : List Char} (written : text.toList = type.toList ++ rest) (alone : typeOf rest = []) :
    ofPrinted? text = ofTyped? type (bodyOf rest) := by
  rw [ofPrinted?, written, typeOf_append plain, bodyOf_append plain, alone, List.append_nil,
    String.ofList_toList]

/-- `withHint` puts a type that is shown in front, with a colon and a blank behind it. -/
theorem toList_withHint {options : OutputOptions} (hints : options.hints = true)
    (type body : String) :
    (withHint options type body).toList = type.toList ++ ':' :: ' ' :: body.toList := by
  rw [withHint, if_pos hints, String.toList_append, String.toList_append, List.append_assoc]
  rfl

theorem ofPrinted?_withHint {options : OutputOptions} (hints : options.hints = true)
    {type : String} (plain : ':' ∉ type.toList) (body : String) :
    ofPrinted? (withHint options type body) = ofTyped? type body.toList :=
  ofPrinted?_append plain (toList_withHint hints type body) rfl

/-- A type alone has no body. -/
theorem ofPrinted?_type (type : String) (plain : ':' ∉ type.toList) :
    ofPrinted? type = ofTyped? type [] :=
  ofPrinted?_append plain (List.append_nil _).symm rfl

/-- Time is shown like any other number, and also as a clock would. -/
theorem print_timeTicks {options : OutputOptions} (hints : options.hints = true) (n : UInt32) :
    (Value.timeTicks n).print options
      = withHint options "Timeticks" ("(" ++ toString n.toNat ++ ") " ++ TimeTicks.text n) := by
  have front : "Timeticks: (" = "Timeticks" ++ ": " ++ "(" := by decide +kernel
  rw [print, if_pos hints, withHint, if_pos hints]
  show "Timeticks: (" ++ toString n.toNat ++ ") " ++ TimeTicks.text n = _
  simp only [front, String.append_assoc]

/-! ## Values -/

theorem ofTyped?_integer (n : Int64) :
    ofTyped? "INTEGER" (toString n).toList = some (.integer n) := by
  have read : Decimal.signed? Decimal.half64 (toString n).toList = some n.toInt :=
    Decimal.signed?_toString n.le_toInt n.toInt_lt
  show (Decimal.signed? Decimal.half64 (toString n).toList).map _ = _
  rw [read, Option.map_some, Int64.ofInt_toInt]

/-- The text of octets stands between quotes. -/
theorem toList_quoted (content : Octets) :
    ("\"" ++ lossyText content ++ "\"").toList = '"' :: (Utf8.decodeLossy content ++ ['"']) := by
  rw [String.toList_append, String.toList_append, lossyText,
    String.toList_ofList (l := Utf8.decodeLossy content)]
  rfl

/-- Printable octets are found between the quotes by `unquote`, since they are ASCII. -/
theorem ofTyped?_string {content : Octets} (printable : isPrintable content = true) :
    ofTyped? "STRING" ("\"" ++ lossyText content ++ "\"").toList = some (.octetString content) := by
  have ascii := ascii_of_isPrintable printable
  have octets : unquote ('"' :: (Utf8.decodeLossy content ++ ['"'])) = content := by
    rw [unquote, List.tail_cons, List.dropLast_concat, Utf8.decodeLossy_ascii ascii, List.map_map]
    exact (List.map_congr_left fun b mem => Utf8.ofNat_toNat_ascii (ascii b mem)).trans
      (List.map_id content)
  show some (Value.octetString (unquote _)) = _
  rw [toList_quoted, octets]

/-- The number of a time stands in parentheses before its clock. -/
theorem toList_timeTicks (n : UInt32) :
    ("(" ++ toString n.toNat ++ ") " ++ TimeTicks.text n).toList
      = '(' :: (Nat.toDigits 10 n.toNat ++ ')' :: ' ' :: (TimeTicks.text n).toList) := by
  rw [String.toList_append, String.toList_append, String.toList_append,
    Decimal.toList_toString_nat, List.append_assoc, List.append_assoc]
  rfl

/-- Of a time `ofTyped?` reads only the number in parentheses, which says it exactly. -/
theorem ofTyped?_timeTicks (n : UInt32) :
    ofTyped? "Timeticks" ("(" ++ toString n.toNat ++ ") " ++ TimeTicks.text n).toList
      = some (.timeTicks n) := by
  have ends := Decimal.endsDigits_cons (c := ')') rfl (' ' :: (TimeTicks.text n).toList)
  rw [toList_timeTicks]
  show (Decimal.nat? ((Nat.toDigits 10 n.toNat ++ _).takeWhile Char.isDigit)).map _ = _
  rw [Decimal.takeWhile_toDigits n.toNat ends, Decimal.nat?_toDigits, Option.map_some,
    UInt32.ofNat_toNat]

/-- No other type starts like that of an unknown value, so `ofTyped?` comes to its last rule. -/
theorem ofTyped?_of_head {type : String} (h : type.toList.head? = some 'U') (body : List Char) :
    ofTyped? type body = (do
      let tag ← unknownTag? type.toList
      let content ← Octets.ofHex? body
      return .unknown tag content) := by
  unfold ofTyped?
  split
  case h_15 => rfl
  all_goals exact absurd h (by decide)

theorem toList_unknown (tag : UInt8) : ("Unknown(0x" ++ Octets.upperHexByte tag ++ ")").toList
    = "Unknown(0x".toList ++ (Octets.hexPair 'A' tag ++ [')']) := by
  rw [String.toList_append, String.toList_append, List.append_assoc, Octets.upperHexByte,
    String.toList_ofList (l := Octets.hexPair 'A' tag)]
  rfl

theorem colon_not_mem_unknown (tag : UInt8) :
    ':' ∉ ("Unknown(0x" ++ Octets.upperHexByte tag ++ ")").toList := by
  rw [toList_unknown, List.mem_append, List.mem_append, not_or, not_or]
  exact ⟨by decide, Octets.not_mem_hexPair (.inl rfl) (by decide) tag, by decide⟩

/-- `ofTyped?` reads tag and content of an unknown value from their hex. -/
theorem ofTyped?_unknown (tag : UInt8) (content : Octets) :
    ofTyped? ("Unknown(0x" ++ Octets.upperHexByte tag ++ ")") content.upperHex.toList
      = some (.unknown tag content) := by
  have named :
      unknownTag? ("Unknown(0x".toList ++ (Octets.hexPair 'A' tag ++ [')'])) = some tag := by
    show (match Octets.ofHex? (Octets.hexPair 'A' tag) with
      | some [tag] => some tag
      | _ => none) = some tag
    have read := Octets.ofHex?_upperHex [tag]
    rw [Octets.upperHex, String.toList_ofList, List.map_singleton,
      List.intercalate_singleton] at read
    rw [read]
  rw [ofTyped?_of_head (by rw [toList_unknown]; rfl), toList_unknown, named, Octets.ofHex?_upperHex]
  rfl

/-- By cases on the value: its text has a type without a colon, and a body that `ofTyped?` reads by
the rule of that type. -/
theorem ofPrinted?_print {options : OutputOptions} (hints : options.hints = true)
    (strings : options.strings = .auto ∨ options.strings = .hex) (value : Value) :
    ofPrinted? (value.print options) = some value := by
  cases value with
  | integer n =>
    rw [print, ofPrinted?_withHint hints (by decide)]
    exact ofTyped?_integer n
  | octetString content =>
    rw [print]
    split
    case isTrue textual =>
      -- under `auto` the text is printable, and under `hex` there is none
      have printable : isPrintable content = true := by
        rcases strings with auto | hex
        · rwa [auto] at textual
        · rw [hex] at textual
          cases textual
      rw [ofPrinted?_withHint hints (by decide)]
      exact ofTyped?_string printable
    case isFalse =>
      rw [ofPrinted?_withHint hints (by decide)]
      show (Octets.ofHex? content.upperHex.toList).map octetString = _
      rw [Octets.ofHex?_upperHex, Option.map_some]
  | null => exact ofPrinted?_type "NULL" (by decide)
  | objectIdentifier oid =>
    rw [print, ofPrinted?_withHint hints (by decide), Mib.render, String.toList_ofList]
    exact congrArg (fun arcs => some (Value.objectIdentifier ⟨arcs⟩))
      (Mib.pathOf_renderChars options.lookup oid)
  | ipAddress addr =>
    rw [print, ofPrinted?_withHint hints (by decide)]
    show (Ipv4.parse? addr.text.toList).map ipAddress = _
    rw [Ipv4.parse?_text, Option.map_some]
  | counter32 n | gauge32 n =>
    rw [print, ofPrinted?_withHint hints (by decide)]
    show (Decimal.nat? (toString n.toNat).toList).map _ = _
    rw [Decimal.toList_toString_nat, Decimal.nat?_toDigits, Option.map_some, UInt32.ofNat_toNat]
  | counter64 n =>
    rw [print, ofPrinted?_withHint hints (by decide)]
    show (Decimal.nat? (toString n.toNat).toList).map _ = _
    rw [Decimal.toList_toString_nat, Decimal.nat?_toDigits, Option.map_some, UInt64.ofNat_toNat]
  | timeTicks n =>
    rw [print_timeTicks hints, ofPrinted?_withHint hints (by decide)]
    exact ofTyped?_timeTicks n
  | opaqueData content =>
    rw [print, ofPrinted?_withHint hints (by decide)]
    show (Octets.ofHex? content.upperHex.toList).map opaqueData = _
    rw [Octets.ofHex?_upperHex, Option.map_some]
  | noSuchObject => exact ofPrinted?_type "noSuchObject" (by decide)
  | noSuchInstance => exact ofPrinted?_type "noSuchInstance" (by decide)
  | endOfMibView => exact ofPrinted?_type "endOfMibView" (by decide)
  | unknown tag content =>
    exact (ofPrinted?_withHint hints (colon_not_mem_unknown tag) _).trans
      (ofTyped?_unknown tag content)

/-! ## No two values alike -/

/-- With types in front, and octet strings in hex where they are not printable, every value is found
in its text by `ofPrinted?`, whatever way objects are written in; so no two values are printed
alike. -/
theorem print_unambiguous {options : OutputOptions} (hints : options.hints = true)
    (strings : options.strings = .auto ∨ options.strings = .hex) :
    (∀ value, ofPrinted? (value.print options) = some value) ∧
      Function.Injective (print options) := by
  refine ⟨ofPrinted?_print hints strings, fun first second same => ?_⟩
  have found := congrArg ofPrinted? same
  rw [ofPrinted?_print hints strings, ofPrinted?_print hints strings] at found
  exact Option.some.inj found

/-- A string with a quote and a line feed, an unknown value without content, and two values whose
texts differ in their types alone. -/
theorem print_unambiguous_hints :
    let options : OutputOptions := { lookup := .full }
    options.hints = true ∧ (options.strings = .auto ∨ options.strings = .hex) ∧
      (octetString [0x22, 0x0A]).print options = "STRING: \"\"\n\"" ∧
      ofPrinted? "STRING: \"\"\n\"" = some (octetString [0x22, 0x0A]) ∧
      (unknown 0x47 []).print options = "Unknown(0x47): " ∧
      ofPrinted? "Unknown(0x47): " = some (unknown 0x47 []) ∧
      (counter32 7).print options ≠ (gauge32 7).print options := by
  intro options
  have strings : options.strings = .auto ∨ options.strings = .hex := .inl rfl
  have textual : (octetString [0x22, 0x0A]).print options = "STRING: \"\"\n\"" := by
    decide +kernel
  have untyped : (unknown 0x47 []).print options = "Unknown(0x47): " := by decide +kernel
  have hints : options.hints = true := rfl
  obtain ⟨found, injective⟩ := print_unambiguous hints strings
  refine ⟨hints, strings, textual, ?_, untyped, ?_, fun same => ?_⟩
  · rw [← textual]
    exact found _
  · rw [← untyped]
    exact found _
  · cases injective same

end Value

end SnmpManager
