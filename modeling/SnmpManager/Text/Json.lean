import SnmpManager.Octets

/-!
# JSON text

Writing the values a binding needs: strings, whole numbers and `null`.

A string is written between double quotes. The quote, the backslash and the
control characters below `U+0020` are escaped, with the short escape where there
is one and a four-digit lower-case hex escape otherwise. Everything else stands
as it is.
-/

namespace SnmpManager.Json

/-- How one character stands inside a string. -/
def escape (c : Char) : List Char :=
  if c = '"' then ['\\', '"']
  else if c = '\\' then ['\\', '\\']
  else if c = '\x08' then ['\\', 'b']
  else if c = '\x0c' then ['\\', 'f']
  else if c = '\n' then ['\\', 'n']
  else if c = '\r' then ['\\', 'r']
  else if c = '\t' then ['\\', 't']
  else if c.toNat < 0x20 then ['\\', 'u', '0', '0'] ++ Octets.hexPair 'a' (UInt8.ofNat c.toNat)
  else [c]

/-- A text as a string literal. -/
def quote (text : List Char) : List Char :=
  '"' :: (text.flatMap escape ++ ['"'])

/-- The scalars that appear as binding values. -/
inductive Scalar where
  | null
  | number (n : Int)
  | string (text : List Char)
  deriving DecidableEq, Repr

/-- The literal for a scalar. -/
def Scalar.write : Scalar → List Char
  | .null => "null".toList
  | .number n => (toString n).toList
  | .string text => quote text

/-- An object with the given keys in order, without blanks. -/
def object (fields : List (String × Scalar)) : List Char :=
  let members := fields.map fun (key, value) => quote key.toList ++ [':'] ++ value.write
  '\x7b' :: ([','].intercalate members ++ ['\x7d'])

end SnmpManager.Json
