import SnmpManager.Text.Elapsed

/-!
# Clocks of the host

- `Clock.now` is the time on a clock that never goes back.
- `Clock.uptime` is how long the host has been up, in hundredths of a second,
  counted in whole seconds.
-/

namespace SnmpManager.Clock

/-- The time on a clock that never goes back. -/
def now : IO Duration := do
  return ⟨← IO.monoNanosNow⟩

/-- The ticks in a record that begins with the seconds the host has been up; none if it does
not. A number of ticks too large for 64 bits stops at the largest. -/
def ticksOfRecord (record : String) : UInt64 :=
  let seconds := (Decimal.nat? (record.toList.takeWhile (· != '.'))).getD 0
  UInt64.ofNat (min (seconds * 100) (UInt64.size - 1))

/-- How long the host has been up. -/
def uptime : IO UInt64 := do
  try return ticksOfRecord (← IO.FS.readFile "/proc/uptime")
  catch _ => return 0

end SnmpManager.Clock
