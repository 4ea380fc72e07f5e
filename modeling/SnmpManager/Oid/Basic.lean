/-!
# Object identifiers

An `Oid` is a path in the tree of managed objects, a list of 32-bit arcs. Any
list is an `Oid`; what can be written on the wire is narrower.

- `Oid.compare` is the order in which agents enumerate objects: arc by arc, a
  path before its extensions.
- `Oid.isBelow root oid` says that `oid` lies strictly under `root`.
- `Oid.check` and `Oid.checkLength` are the limits a path can be held to.
-/

namespace SnmpManager

/-- A path of arcs from the root of the object tree. -/
structure Oid where
  arcs : List UInt32
  deriving DecidableEq, Repr, Inhabited

/-- What is wrong with an object identifier. -/
inductive OidFault where
  /-- No text to read. -/
  | empty
  /-- An arc that is not a 32-bit number. -/
  | invalidArc
  /-- More arcs than an object identifier may have. -/
  | tooManyArcs (count max : Nat)
  /-- A first arc that no branch of the tree has. -/
  | invalidFirstArc (arc : UInt32)
  /-- A second arc that the first arc leaves no room for. -/
  | invalidSecondArc (first second : UInt32)
  deriving DecidableEq, Repr

/-- The fault in words. -/
def OidFault.message : OidFault → String
  | .empty => "empty OID"
  | .invalidArc => "invalid arc value"
  | .tooManyArcs count max => s!"OID has {count} arcs, exceeds maximum {max}"
  | .invalidFirstArc arc => s!"first arc must be 0, 1, or 2, got {arc}"
  | .invalidSecondArc first second => s!"second arc {second} too large for first arc {first}"

namespace Oid

/-- The most arcs an object identifier may have. -/
def maxArcs : Nat := 128

/-- The number of arcs. -/
def length (oid : Oid) : Nat := oid.arcs.length

/-! ## Order and subtrees -/

/-- Lexicographic order on arcs. -/
def compareArcs : List UInt32 → List UInt32 → Ordering
  | [], [] => .eq
  | [], _ :: _ => .lt
  | _ :: _, [] => .gt
  | a :: as, b :: bs => if a < b then .lt else if b < a then .gt else compareArcs as bs

@[simp] theorem compareArcs_self (arcs : List UInt32) : compareArcs arcs arcs = .eq := by
  induction arcs with
  | nil => rfl
  | cons a arcs ih => simp [compareArcs, ih]

/-- The order of the object tree. -/
def compare (a b : Oid) : Ordering :=
  compareArcs a.arcs b.arcs

instance : Ord Oid := ⟨compare⟩

instance : LT Oid := ⟨fun a b => a.compare b = .lt⟩

instance : LE Oid := ⟨fun a b => a.compare b ≠ .gt⟩

instance (a b : Oid) : Decidable (a < b) :=
  inferInstanceAs (Decidable (a.compare b = .lt))

instance (a b : Oid) : Decidable (a ≤ b) :=
  inferInstanceAs (Decidable (a.compare b ≠ .gt))

/-- Whether the arcs of `oid` begin with those of `root`. -/
def startsWith (oid root : Oid) : Bool :=
  root.arcs.isPrefixOf oid.arcs

theorem startsWith_iff (oid root : Oid) : oid.startsWith root ↔ root.arcs <+: oid.arcs := by
  simp [startsWith]

/-- Whether `oid` lies strictly under `root`. -/
def isBelow (root oid : Oid) : Bool :=
  root.compare oid == .lt && oid.startsWith root

/-! ## Building -/

/-- The path one arc further down. -/
def child (oid : Oid) (arc : UInt32) : Oid :=
  ⟨oid.arcs ++ [arc]⟩

/-- The path some arcs further down. -/
def extend (oid : Oid) (suffix : List UInt32) : Oid :=
  ⟨oid.arcs ++ suffix⟩

/-! ## Limits -/

/-- The limit on the number of arcs. -/
def checkLength (oid : Oid) : Except OidFault Unit :=
  if oid.length > maxArcs then .error (.tooManyArcs oid.length maxArcs) else .ok ()

theorem checkLength_eq_ok_iff (oid : Oid) : oid.checkLength = .ok () ↔ oid.length ≤ maxArcs := by
  rw [checkLength]
  split
  case isTrue long => exact ⟨fun e => (by cases e), fun short => absurd long (Nat.not_lt.mpr short)⟩
  case isFalse short => exact ⟨fun _ => Nat.not_lt.mp short, fun _ => rfl⟩

/-- The limits on the first two arcs, then the one on their number. -/
def check (oid : Oid) : Except OidFault Unit :=
  match oid.arcs with
  | [] => .ok ()
  | [first] => if first > 2 then .error (.invalidFirstArc first) else oid.checkLength
  | first :: second :: _ =>
    if first > 2 then .error (.invalidFirstArc first)
    else if first < 2 ∧ second ≥ 40 then .error (.invalidSecondArc first second)
    else oid.checkLength

/-! ## Text -/

/-- Arcs in decimal between dots. -/
def chars (oid : Oid) : List Char :=
  ['.'].intercalate (oid.arcs.map fun arc => Nat.toDigits 10 arc.toNat)

/-- Dotted decimal. -/
def text (oid : Oid) : String :=
  String.ofList oid.chars

end Oid

end SnmpManager
