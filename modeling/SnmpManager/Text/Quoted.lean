import SnmpManager.Text.Unicode.Hidden
import SnmpManager.Text.Unicode.Extending

/-!
# Quoted characters

How a rejected character is shown in a message: between single quotes, so that
it can be seen whatever it is.

The single quote, the backslash, newline, return, tab and NUL have a backslash
escape. A character that has no visible form, or that would attach to the quote
before it, is shown by its code point in hex between braces. All others stand as
they are.
-/

namespace SnmpManager.Quoted

/-- Lower-case hex without leading zeros. -/
def codePoint (c : Char) : List Char :=
  Nat.toDigits 16 c.toNat

/-- How a character stands between single quotes. -/
def escape (c : Char) : List Char :=
  if c = '\x00' then ['\\', '0']
  else if c = '\t' then ['\\', 't']
  else if c = '\r' then ['\\', 'r']
  else if c = '\n' then ['\\', 'n']
  else if c = '\\' then ['\\', '\\']
  else if c = '\x27' then ['\\', '\x27']
  else if Unicode.isExtending c || Unicode.isHidden c then
    ['\\', 'u', '\x7b'] ++ codePoint c ++ ['\x7d']
  else [c]

/-- A character between single quotes. -/
def char (c : Char) : String :=
  String.ofList ('\x27' :: (escape c ++ ['\x27']))

end SnmpManager.Quoted
