import SnmpManager.Proofs.Print.Json
import SnmpManager.Proofs.Print.Recovered

/-!
# Text and JSON alike

The two forms of a value are written apart from each other, and say the same: the type that
stands in front of the text is the type of the JSON form, and what follows it is the JSON
value, as far as a text can say it. Octets that one form shows as text the other does not
show in hex, and where they are hex, both forms have all of them.

- `Value.Alike`: what it is for a text and a JSON value to say the same of a value.
- `Value.forms_alike`: they do, for every value under a tag with a meaning and all options that
  show types.
-/

namespace SnmpManager.Value

/-- The text and the JSON value of a value, whose type is `type` in both, say the same. -/
inductive Alike (type : List Char) : Value → List Char → Json.Scalar → Prop where
  /-- There is no value, and nothing but the type in the text. -/
  | null : Alike type .null type .null
  | exception {value : Value} (none : value.isException = true) : Alike type value type .null
  /-- The number has the digits that are shown. -/
  | number {value : Value} {n : Int} {digits : List Char} (holds : value.number? = some n)
      (untimed : ∀ ticks, value ≠ .timeTicks ticks) (shown : Decimal.Signed digits n) :
      Alike type value (type ++ ':' :: ' ' :: digits) (.number n)
  /-- The number has the digits in parentheses. -/
  | timeTicks {ticks : UInt32} {digits clock : List Char}
      (shown : Decimal.Denotes digits ticks.toNat) :
      Alike type (.timeTicks ticks) (type ++ ':' :: ' ' :: '(' :: (digits ++ ')' :: clock))
        (.number ticks.toNat)
  /-- Both show characters, and these are the same: those the octets are read as. -/
  | text {content : Octets} {chars : List Char} (textual : type = "STRING".toList)
      (shown : chars = Utf8.decodeLossy content) :
      Alike type (.octetString content) (type ++ ':' :: ' ' :: '"' :: (chars ++ ['"']))
        (.string chars)
  /-- Both show hex, and it is that of the octets. -/
  | hex {content : Octets} {upper lower : List Char} (binary : type = "Hex-STRING".toList)
      (shown : Octets.ofHex? upper = some content) (told : Octets.ofHex? lower = some content) :
      Alike type (.octetString content) (type ++ ':' :: ' ' :: upper) (.string lower)
  | opaqueData {content : Octets} {upper lower : List Char}
      (shown : Octets.ofHex? upper = some content) (told : Octets.ofHex? lower = some content) :
      Alike type (.opaqueData content) (type ++ ':' :: ' ' :: upper) (.string lower)
  /-- Both have the same text, and it is a text of the path. -/
  | objectIdentifier {oid : Oid} {chars : List Char} (shown : Mib.pathOf chars = oid.arcs) :
      Alike type (.objectIdentifier oid) (type ++ ':' :: ' ' :: chars) (.string chars)
  | ipAddress {addr : Ipv4} {chars : List Char} (shown : Ipv4.parse? chars = some addr) :
      Alike type (.ipAddress addr) (type ++ ':' :: ' ' :: chars) (.string chars)

variable {type text : List Char} {value : Value} {scalar : Json.Scalar}

/-- `typeOf` finds the type: it stands before the first colon of the text, and is all of it if there
is none. -/
theorem Alike.typeOf_eq (h : Alike type value text scalar) (plain : ':' ∉ type) :
    typeOf text = type := by
  cases h with
  | null | exception _ =>
    have alone := typeOf_append plain []
    rwa [List.append_nil, show typeOf [] = [] from rfl, List.append_nil] at alone
  | number _ _ _ | timeTicks _ | text _ _ | hex _ _ _ | opaqueData _ _ | objectIdentifier _
  | ipAddress _ => exact (typeOf_append plain _).trans (List.append_nil type)

/-- The type goes by the rule that the value goes by, `shownAsText`. -/
theorem jsonType_octetString (options : OutputOptions) (content : Octets) :
    (octetString content).jsonType options
      = if shownAsText options.strings content then "STRING" else "Hex-STRING" := by
  rw [jsonType]
  cases options.strings with
  | auto => cases textual : isPrintable content <;> simp [shownAsText, textual, typeName]
  | ascii => rfl
  | hex => rfl

theorem colon_not_mem_typeName (value : Value) : ':' ∉ value.typeName.toList := by
  cases value
  all_goals
    rw [typeName]
    decide

theorem colon_not_mem_jsonType (options : OutputOptions) (value : Value) :
    ':' ∉ (value.jsonType options).toList := by
  fun_cases jsonType options value
  case case1 => decide
  case case2 content _ => exact colon_not_mem_typeName (.octetString content)
  case case3 => exact colon_not_mem_typeName value

/-- By cases on the value, each of which is one way to be `Alike`. -/
theorem alike {options : OutputOptions} (hints : options.hints = true)
    (known : ∀ tag content, value ≠ .unknown tag content) :
    Alike (value.jsonType options).toList value (value.print options).toList
      (value.json options) := by
  cases value with
  | integer n =>
    rw [print, toList_withHint hints]
    exact .number rfl (by rintro _ ⟨⟩) (Decimal.signed_toString n.toInt)
  | octetString content =>
    -- the choice between text and hex is made for the type, the text and the JSON value apart
    rw [jsonType_octetString, print, json]
    split
    case isTrue =>
      rw [toList_withHint hints, toList_quoted]
      exact .text rfl rfl
    case isFalse =>
      rw [toList_withHint hints]
      exact .hex rfl (Octets.ofHex?_upperHex content) (Octets.ofHex?_lowerHex content)
  | null => exact .null
  | objectIdentifier oid =>
    rw [print, toList_withHint hints, Mib.render,
      String.toList_ofList (l := Mib.renderChars options.lookup oid)]
    exact .objectIdentifier (Mib.pathOf_renderChars options.lookup oid)
  | ipAddress addr =>
    rw [print, toList_withHint hints]
    exact .ipAddress (Ipv4.parse?_text addr)
  | counter32 n | gauge32 n | counter64 n =>
    rw [print, toList_withHint hints]
    exact .number rfl (by rintro _ ⟨⟩) (Decimal.signed_toString n.toNat)
  | timeTicks n =>
    rw [print_timeTicks hints, toList_withHint hints, toList_timeTicks]
    exact .timeTicks (Decimal.nat?_eq_some_iff.mp (Decimal.nat?_toDigits _))
  | opaqueData content =>
    rw [print, toList_withHint hints]
    exact .opaqueData (Octets.ofHex?_upperHex content) (Octets.ofHex?_lowerHex content)
  | noSuchObject | noSuchInstance | endOfMibView => exact .exception rfl
  | unknown tag content => exact absurd rfl (known tag content)

/-- With types in front, `print` and `json` say the same of a value, whatever way objects are
written in and strings are shown. -/
theorem forms_alike {options : OutputOptions} (hints : options.hints = true)
    (known : ∀ tag content, value ≠ .unknown tag content) :
    typeOf (value.print options).toList = (value.jsonType options).toList ∧
      Alike (value.jsonType options).toList value (value.print options).toList
        (value.json options) :=
  ⟨(alike hints known).typeOf_eq (colon_not_mem_jsonType options value), alike hints known⟩

/-- Octets that are no printable ASCII, shown as text and in hex, and a time. -/
theorem forms_alike_hints :
    let value : Value := .octetString [0xC3, 0xA9]
    let quoted : OutputOptions := { strings := .ascii, lookup := .numeric }
    let free : OutputOptions := { lookup := .numeric }
    quoted.hints = true ∧ free.hints = true ∧
      (∀ tag content, value ≠ .unknown tag content) ∧
      value.print quoted = "STRING: \"é\"" ∧
      Alike "STRING".toList value "STRING: \"é\"".toList (.string "é".toList) ∧
      value.print free = "Hex-STRING: C3 A9" ∧
      Alike "Hex-STRING".toList value "Hex-STRING: C3 A9".toList (.string "c3a9".toList) ∧
      (timeTicks 8640123).print free = "Timeticks: (8640123) 1 day, 0:00:01.23" ∧
      Alike "Timeticks".toList (.timeTicks 8640123)
        "Timeticks: (8640123) 1 day, 0:00:01.23".toList (.number 8640123) := by
  intro value quoted free
  have known : ∀ tag content, value ≠ .unknown tag content := nofun
  have text : value.print quoted = "STRING: \"é\"" := by decide +kernel
  have hex : value.print free = "Hex-STRING: C3 A9" := by decide +kernel
  have time : (timeTicks 8640123).print free = "Timeticks: (8640123) 1 day, 0:00:01.23" := by
    decide +kernel
  refine ⟨rfl, rfl, known, text, ?_, hex, ?_, time, ?_⟩
  · rw [← text]
    exact (@forms_alike value quoted rfl known).2
  · rw [← hex]
    exact (@forms_alike value free rfl known).2
  · rw [← time]
    exact (@forms_alike (.timeTicks 8640123) free rfl nofun).2

end SnmpManager.Value
