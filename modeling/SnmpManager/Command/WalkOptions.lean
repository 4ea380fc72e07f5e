import SnmpManager.Oid.Basic

/-!
# Walk options

How a subtree is walked: where it starts and ends, whether its order is checked,
and whether it goes object by object or in bulk.
-/

namespace SnmpManager

/-- The two counts of a GETBULK. -/
structure BulkCounts where
  nonRepeaters : UInt32 := 0
  maxRepetitions : UInt32 := 10
  deriving DecidableEq, Repr, Inhabited

/-- How a subtree is walked. -/
structure WalkOptions where
  /-- Get the root itself first. -/
  includeStart : Bool := false
  /-- Fail when an object comes before the one before it. -/
  checkIncrease : Bool := true
  /-- Get the root itself if nothing was found under it. -/
  fallbackOnEmpty : Bool := true
  /-- Stop before this object and all after it. -/
  bound : Option Oid := none
  /-- Walk in bulk. -/
  bulk : Option BulkCounts := none
  deriving DecidableEq, Repr, Inhabited

end SnmpManager
