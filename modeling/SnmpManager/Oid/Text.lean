import SnmpManager.Error

/-!
# Dotted decimal object identifiers

`Oid.parse` reads what `Oid.text` writes, and also one leading dot and leading
zeros in an arc. Of several faults the first in this order is reported: no arcs,
a bad arc, too many arcs. Only the first two quote the text.
-/

namespace SnmpManager.Oid

/-- One arc: digits that denote a 32-bit number. -/
def arc? (text : List Char) : Option UInt32 :=
  (Decimal.nat? text).bind fun n => if n < UInt32.size then some (UInt32.ofNat n) else none

/-- The text without one leading dot. -/
def dropDot : List Char → List Char
  | '.' :: rest => rest
  | text => text

/-- The arcs between single dots. -/
def arcs? (text : List Char) : Option (List UInt32) :=
  (text.splitOn '.').mapM arc?

/-- Read dotted decimal, with at most one leading dot. -/
def parse (text : String) : Except Error Oid :=
  let body := dropDot text.toList
  if body = [] then .error (.invalidOid .empty (some text))
  else match arcs? body with
    | none => .error (.invalidOid .invalidArc (some text))
    | some arcs =>
      match checkLength ⟨arcs⟩ with
      | .error fault => .error (.invalidOid fault none)
      | .ok () => .ok ⟨arcs⟩

end SnmpManager.Oid
