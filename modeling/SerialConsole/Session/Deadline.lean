import SerialConsole.Duration

/-!
# Deadlines

A deadline is shared by all the waits of one operation: each may take what the ones before it have
left of the time.
-/

namespace SerialConsole

/-- A point in time, in nanoseconds since some start. -/
abbrev Instant := Nat

/-- A span of time from an instant on. -/
structure Deadline where
  start : Instant
  timeout : Duration
  deriving DecidableEq, Repr

namespace Deadline

/-- The deadline that ends `timeout` from now. -/
def after (now : Instant) (timeout : Duration) : Deadline := ⟨now, timeout⟩

def elapsed (d : Deadline) (now : Instant) : Duration := now - d.start

def remaining (d : Deadline) (now : Instant) : Duration := d.timeout - d.elapsed now

def finish (d : Deadline) : Instant := d.start + d.timeout

/-- As long as there is time left, it runs out. -/
theorem finish_sub_lt {d : Deadline} {now later : Instant} (passed : now < later)
    (left : d.remaining now ≠ 0) : d.finish - later < d.finish - now := by
  have shorter (start timeout now later : Nat) (passed : now < later)
      (left : timeout - (now - start) ≠ 0) : start + timeout - later < start + timeout - now := by
    omega
  exact shorter d.start d.timeout now later passed left

end Deadline

end SerialConsole
