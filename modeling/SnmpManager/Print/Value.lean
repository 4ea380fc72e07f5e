import SnmpManager.Command.Output
import SnmpManager.Value

/-!
# Printed values

The text of a value, with or without its type in front.

- `Value.print` is the text under given options.
- `Value.isPrintable` decides between text and hex for octet strings.
- `TimeTicks.text` shows hundredths of a second as days, hours, minutes and
  seconds.
-/

namespace SnmpManager

/-- Hundredths of a second as `[D days, ]H:MM:SS.cc`. -/
def TimeTicks.text (ticks : UInt32) : String :=
  let n := ticks.toNat
  let seconds := n / 100
  let clock := toString (seconds % 86400 / 3600) ++ ":" ++ Decimal.padded 2 (seconds % 3600 / 60)
    ++ ":" ++ Decimal.padded 2 (seconds % 60) ++ "." ++ Decimal.padded 2 (n % 100)
  match seconds / 86400 with
  | 0 => clock
  | 1 => "1 day, " ++ clock
  | days => toString days ++ " days, " ++ clock

namespace Value

/-- Whether a character is a visible ASCII character, a space, or a tab, newline, form feed or
return. -/
def isPrintableChar (c : Char) : Bool :=
  ('!' ≤ c && c ≤ '~') || [' ', '\t', '\n', '\x0C', '\r'].contains c

/-- Whether octets are printable ASCII text. -/
def isPrintable (content : Octets) : Bool :=
  match Utf8.decode? content with
  | some chars => chars.all isPrintableChar
  | none => false

/-- Whether an octet string is shown as text. -/
def shownAsText (mode : StringMode) (content : Octets) : Bool :=
  match mode with
  | .ascii => true
  | .hex => false
  | .auto => isPrintable content

/-- The text of octets, as it stands between the quotes. -/
def lossyText (content : Octets) : String :=
  String.ofList (Utf8.decodeLossy content)

/-- The type in front of a text, if types are shown. -/
def withHint (options : OutputOptions) (type body : String) : String :=
  if options.hints then type ++ ": " ++ body else body

/-- The text of a value. -/
def print (options : OutputOptions) : Value → String
  | .integer n => withHint options "INTEGER" (toString n)
  | .octetString content =>
    if shownAsText options.strings content then
      withHint options "STRING" ("\"" ++ lossyText content ++ "\"")
    else withHint options "Hex-STRING" (Octets.upperHex content)
  | .null => "NULL"
  | .objectIdentifier oid => withHint options "OID" (Mib.render options.lookup oid)
  | .ipAddress addr => withHint options "IpAddress" addr.text
  | .counter32 n => withHint options "Counter32" (toString n)
  | .gauge32 n => withHint options "Gauge32" (toString n)
  | .counter64 n => withHint options "Counter64" (toString n)
  | .timeTicks n =>
    if options.hints then s!"Timeticks: ({n}) {TimeTicks.text n}" else toString n
  | .opaqueData content => withHint options "Opaque" (Octets.upperHex content)
  | .noSuchObject => "noSuchObject"
  | .noSuchInstance => "noSuchInstance"
  | .endOfMibView => "endOfMibView"
  | .unknown tag content =>
    withHint options s!"Unknown(0x{Octets.upperHexByte tag})" (Octets.upperHex content)

end Value

end SnmpManager
