import SnmpManager.Mib.Table
import SnmpManager.Oid.Text
import SnmpManager.Text.Split

/-!
# Names and numbers

- `Mib.resolve` reads an object as a user types it: dotted decimal, a name, or a
  name with further arcs. Names are found whatever the case of their letters.
- `Mib.render` writes an object in one of three ways (`LookupMode`).
-/

namespace SnmpManager

/-- How objects are written. -/
inductive LookupMode where
  /-- The longest named part by its name, the rest in numbers. -/
  | short
  /-- Every named node on the path by its name. -/
  | full
  /-- Numbers only. -/
  | numeric
  deriving DecidableEq, Repr, Inhabited

namespace Mib

/-! ## Reading -/

/-- The name of exactly this node. -/
def nameOf? (arcs : List UInt32) : Option String :=
  (nodes.find? fun node => node.arcs == arcs).map Node.name

/-- Equality that ignores the case of ASCII letters. -/
def sameLetters (a b : List Char) : Bool :=
  a.map Char.toLower == b.map Char.toLower

/-- The node with this name; the exact spelling is preferred. -/
def find? (name : List Char) : Option Node :=
  match nodes.find? fun node => node.name.toList == name with
  | some node => some node
  | none => nodes.find? fun node => sameLetters node.name.toList name

/-- Whether a text is meant as numbers. -/
def looksNumeric : List Char → Bool
  | c :: _ => c.isDigit || c == '.'
  | [] => false

/-- The arcs after a name, and whether the whole stays within the limit. -/
def addSuffix (text : String) (base : Oid) (suffix : List Char) : Except Error Oid :=
  match Oid.parse (String.ofList suffix) with
  | .error _ => .error (.unknownObject text)
  | .ok tail =>
    let oid := base.extend tail.arcs
    match oid.checkLength with
    | .error fault => .error (.invalidOid fault none)
    | .ok () => .ok oid

/-- The object a text denotes. -/
def resolve (text : String) : Except Error Oid :=
  let chars := text.toList
  if looksNumeric chars then Oid.parse text
  else
    let (name, suffix?) := match Text.splitFirst? '.' chars with
      | some (name, suffix) => (name, some suffix)
      | none => (chars, none)
    match find? name with
    | none => .error (.unknownObject text)
    | some node =>
      match suffix? with
      | none => .ok ⟨node.arcs⟩
      | some suffix => addSuffix text ⟨node.arcs⟩ suffix

/-! ## Writing -/

/-- An arc in decimal. -/
def arcChars (arc : UInt32) : List Char :=
  Nat.toDigits 10 arc.toNat

/-- The name of the longest named path that goes from `path` into the given arcs, and the arcs
beyond it. -/
def longestNamed (path : List UInt32) : List UInt32 → Option (String × List UInt32)
  | [] => none
  | arc :: rest =>
    match longestNamed (path ++ [arc]) rest with
    | some found => some found
    | none => (nameOf? (path ++ [arc])).map fun name => (name, rest)

/-- A name followed by arcs in numbers, or numbers only. -/
def shortChars (oid : Oid) : List Char :=
  match longestNamed [] oid.arcs with
  | some (name, rest) => name.toList ++ rest.flatMap fun arc => '.' :: arcChars arc
  | none => oid.chars

/-- Each arc by the name of the path down to it, or in numbers. -/
def fullParts (path : List UInt32) : List UInt32 → List (List Char)
  | [] => []
  | arc :: rest =>
    let here := path ++ [arc]
    let part := match nameOf? here with
      | some name => name.toList
      | none => arcChars arc
    part :: fullParts here rest

/-- An object in the given way. -/
def renderChars (mode : LookupMode) (oid : Oid) : List Char :=
  match mode with
  | .numeric => oid.chars
  | .short => shortChars oid
  | .full => ['.'].intercalate (fullParts [] oid.arcs)

/-- An object in the given way. -/
def render (mode : LookupMode) (oid : Oid) : String :=
  String.ofList (renderChars mode oid)

end Mib

end SnmpManager
