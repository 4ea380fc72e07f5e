import SnmpManager.Print.Value
import SnmpManager.Text.Json
import SnmpManager.VarBind

/-!
# Printed bindings

One line for each binding: `object = TYPE: value` or a JSON object.

- `VarBind.line` is the line of a binding under given options.
- `VarBind.json` is the object of the JSON form, with the keys `oid`, `type` and
  `value` in this order.
- `Error.describe` is an error with its objects written like those of bindings.
-/

namespace SnmpManager

namespace Value

/-- The value of the JSON form: numbers as numbers, strings as text or hex. -/
def json (options : OutputOptions) : Value → Json.Scalar
  | .integer n => .number n.toInt
  | .counter32 n | .gauge32 n | .timeTicks n => .number n.toNat
  | .counter64 n => .number n.toNat
  | .octetString content =>
    if shownAsText options.strings content then .string (Utf8.decodeLossy content)
    else .string (Octets.lowerHex content).toList
  | .objectIdentifier oid => .string (Mib.renderChars options.lookup oid)
  | .null | .noSuchObject | .noSuchInstance | .endOfMibView => .null
  | .opaqueData content | .unknown _ content => .string (Octets.lowerHex content).toList
  | .ipAddress addr => .string addr.text.toList

/-- The type of the JSON form. -/
def jsonType (options : OutputOptions) (value : Value) : String :=
  match value with
  | .octetString content =>
    if options.strings == .hex || (options.strings == .auto && !isPrintable content) then
      "Hex-STRING"
    else value.typeName
  | _ => value.typeName

end Value

namespace VarBind

/-- The fields of the JSON form. -/
def jsonFields (options : OutputOptions) (binding : VarBind) : List (String × Json.Scalar) :=
  [("oid", .string (Mib.renderChars options.lookup binding.oid)),
    ("type", .string (binding.value.jsonType options).toList),
    ("value", binding.value.json options)]

/-- The JSON form. -/
def json (options : OutputOptions) (binding : VarBind) : String :=
  String.ofList (Json.object (binding.jsonFields options))

/-- A binding in words, without the end of the line. -/
def print (options : OutputOptions) (binding : VarBind) : String :=
  match options.format with
  | .json => binding.json options
  | .text =>
    let value := binding.value.print options
    if options.valuesOnly then value
    else
      let oid := Mib.render options.lookup binding.oid
      if options.printEquals then oid ++ " = " ++ value else oid ++ " " ++ value

/-- The line of a binding. -/
def line (options : OutputOptions) (binding : VarBind) : String :=
  binding.print options ++ "\n"

end VarBind

/-- The lines of some bindings, one after the other. -/
def printBindings (options : OutputOptions) (bindings : List VarBind) : String :=
  String.join (bindings.map (VarBind.line options))

/-- The line of a bare object. -/
def oidLine (options : OutputOptions) (oid : Oid) : String :=
  Mib.render options.lookup oid ++ "\n"

/-- The line after a walk that says how many bindings were found. -/
def summaryLine (count : Nat) : String :=
  s!"Variables found: {count}\n"

/-- How long a walk took. -/
def traversalTime (elapsed : Duration) : String :=
  s!"Total traversal time: {elapsed.seconds} seconds"

/-- An error in words, its object written in the given way. -/
def Error.describe (lookup : LookupMode) : Error → String
  | .snmp _ status index (some oid) =>
    Error.statusText status index (some (Mib.render lookup oid))
  | error => error.message

end SnmpManager
