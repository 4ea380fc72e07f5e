import SnmpManager.Value

/-!
# Bindings

An object and its value. In a request the value is NULL and only holds the
place.

- `VarBind.write` and `VarBind.read` are the codec of one binding; the octets
  after the value inside a binding are ignored.
- `VarBindList.write` and `VarBindList.read` are the codec of a list, in order.
-/

namespace SnmpManager

/-- An object and its value. -/
structure VarBind where
  oid : Oid
  value : Value
  deriving DecidableEq, Repr, Inhabited

namespace VarBind

/-- A binding that only names an object. -/
def ofOid (oid : Oid) : VarBind := ⟨oid, .null⟩

/-- Put a binding in front of a buffer. -/
def write (binding : VarBind) (buffer : Buffer) : Buffer :=
  buffer.sequence fun b => (binding.value.write b).objectIdentifier binding.oid

/-- Read a binding. -/
def read : Read VarBind := do
  let content ← Read.sequence
  Read.within content do
    let oid ← Read.objectIdentifier
    let value ← Value.read
    return ⟨oid, value⟩

/-- Object and value, with an equals sign between them. -/
def text (binding : VarBind) : String :=
  s!"{binding.oid.text} = {binding.value.text}"

end VarBind

namespace VarBindList

/-- Put a list of bindings in front of a buffer. -/
def write (bindings : List VarBind) (buffer : Buffer) : Buffer :=
  buffer.sequence fun b => bindings.foldr VarBind.write b

/-- Bindings up to the end of the octets; `fuel` bounds their number, and the number of
octets is enough, as every binding takes some. -/
def readAll : (fuel : Nat) → Read (List VarBind)
  | 0 => return []
  | fuel + 1 => do
    if (← get).atEnd then return []
    else
      let binding ← VarBind.read
      let more ← readAll fuel
      return binding :: more

/-- Read a list of bindings. -/
def read : Read (List VarBind) := do
  let content ← Read.sequence
  Read.within content (readAll content.remaining)

end VarBindList

end SnmpManager
