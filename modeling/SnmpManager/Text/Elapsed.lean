import SnmpManager.Text.Decimal

/-!
# Spans of time

A `Duration` counts nanoseconds. It is printed in the largest unit that leaves a
whole part: seconds, milliseconds, microseconds or nanoseconds, with the exact
fraction and no trailing zeros.

A point in time is the span since the start of a clock. Clocks cannot count on
forever: `Duration.after?` has no result at or past their `Duration.horizon`.
-/

namespace SnmpManager

/-- A span of time. -/
structure Duration where
  nanos : Nat
  deriving DecidableEq, Repr, Inhabited

namespace Duration

/-- No time at all. -/
def zero : Duration := ⟨0⟩

/-- Whole seconds. -/
def ofSeconds (n : Nat) : Duration := ⟨n * 1000000000⟩

/-- Whole milliseconds. -/
def ofMillis (n : Nat) : Duration := ⟨n * 1000000⟩

/-- The time from `start` to `finish`, zero if the clock did not advance. -/
def since (finish start : Duration) : Duration := ⟨finish.nanos - start.nanos⟩

/-- Where clocks end: their seconds have 64 bits, one of them the sign. -/
def horizon : Nat := Nat.pow 2 63 * 1000000000

/-- The last point in time before the `horizon`. -/
def latest : Duration := ⟨horizon - 1⟩

/-- The point `span` after `start`; `none` if a clock cannot count to it. -/
def after? (start span : Duration) : Option Duration :=
  if start.nanos + span.nanos < horizon then some ⟨start.nanos + span.nanos⟩ else none

/-- From `start` to the point `span` after it passes the whole `span`. -/
theorem since_of_after? {start span deadline : Duration}
    (h : start.after? span = some deadline) : deadline.since start = span := by
  rw [after?] at h
  split at h <;> cases h
  rw [since, Nat.add_sub_cancel_left]

theorem since_self (point : Duration) : point.since point = .zero := by
  rw [since, Nat.sub_self, zero]

/-- `n` divided by ten to the power `places`, in positional notation, without trailing zeros in
the fraction. -/
def fixed (places n : Nat) : String :=
  let unit := Nat.pow 10 places
  let fraction := (Decimal.padded places (n % unit)).toList
  let kept := (fraction.reverse.dropWhile (· == '0')).reverse
  let whole := toString (n / unit)
  if n % unit = 0 then whole else whole ++ "." ++ String.ofList kept

/-- The span in its largest unit. -/
def text (d : Duration) : String :=
  if d.nanos ≥ 1000000000 then fixed 9 d.nanos ++ "s"
  else if d.nanos ≥ 1000000 then fixed 6 d.nanos ++ "ms"
  else if d.nanos ≥ 1000 then fixed 3 d.nanos ++ "µs"
  else toString d.nanos ++ "ns"

/-- Seconds with all nine digits of the fraction. -/
def seconds (d : Duration) : String :=
  toString (d.nanos / 1000000000) ++ "." ++ Decimal.padded 9 (d.nanos % 1000000000)

end Duration

end SnmpManager
