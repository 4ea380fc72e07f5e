/-!
# Protocol versions

The two community-based versions. GETBULK and TRAPv2 need the later one.
-/

namespace SnmpManager

/-- A community-based protocol version. -/
inductive Version where
  | v1
  | v2c
  deriving DecidableEq, Repr, Inhabited

namespace Version

/-- The number that stands for the version in a message. -/
def number : Version → Int32
  | .v1 => 0
  | .v2c => 1

/-- The version a message number stands for. -/
def ofNumber? (n : Int32) : Option Version :=
  if n = 0 then some .v1 else if n = 1 then some .v2c else none

/-- The version as typed after `-v`. -/
def ofArgument? (arg : String) : Option Version :=
  if arg = "1" then some .v1 else if arg = "2c" then some .v2c else none

/-- The version as messages name it. -/
def text : Version → String
  | .v1 => "SNMPv1"
  | .v2c => "SNMPv2c"

/-- Whether GETBULK and TRAPv2 may be sent. -/
def carriesV2 : Version → Bool
  | .v1 => false
  | .v2c => true

/-- Whether a version is older than another. -/
def isBefore (a b : Version) : Bool :=
  a == .v1 && b == .v2c

@[simp] theorem ofNumber?_number (v : Version) : ofNumber? v.number = some v := by
  cases v <;> rfl

end Version

end SnmpManager
