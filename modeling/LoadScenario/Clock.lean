import LoadScenario.Duration
import LoadScenario.EvalError

/-!
# Time points

A time point is a count of nanoseconds since the run started. The clock
underneath counts whole seconds in a signed 64-bit number from an origin of its
own, which lies before the run started (taken to be an hour before), so a
deadline further out than `2^63` seconds from that origin has no time point:
waiting for it is refused.

Timers fire on whole milliseconds since the run started, so a wait until `t`
ends at the first whole millisecond at or after `t`. The timer counts those
milliseconds in an unsigned 64-bit number and saturates at `2^64 - 3`; the
clock never gets there, so a timer that would fire there or later never
fires, and a wait for it ends only with the stop signal.
-/

namespace LoadScenario

namespace Clock

/-- The seconds between the clock's origin and the start of the run. -/
def origin : Nat := 3600

/-- Whether the clock can represent the time point. -/
def fits (t : Nat) : Bool := origin + t / Duration.nanosPerSec < Nat.pow 2 63

/-- The time point a duration after `t`, if the clock can represent it. -/
def after? (t : Nat) (d : Duration) : Option Nat :=
  if fits (t + d.nanos) then some (t + d.nanos) else none

/-- The time point a duration after `from`, or why there is none. -/
def deadline (t : Nat) (d : Duration) : Except EvalError Nat :=
  match after? t d with
  | some r => .ok r
  | none => .error (.typeMismatch "duration within the clock's range" d.debugText)

/-- The stand-in for "never" of a plain sleep too long for the clock: thirty years. -/
def farFuture : Duration := Duration.ofSecs (86400 * 365 * 30)

/-- The deadline of a plain sleep: the point `d` after `t`, or thirty years
after `t` when that point is out of range. -/
def sleepDeadline (t : Nat) (d : Duration) : Nat :=
  match after? t d with
  | some r => r
  | none => t + farFuture.nanos

/-- Nanoseconds in a millisecond. -/
def nanosPerMilli : Nat := 1000000

/-- The millisecond the timer saturates at. -/
def lastTick : Nat := Nat.pow 2 64 - 3

/-- The millisecond a timer for `t` fires at: `t` rounded up to whole
milliseconds, if that comes before the last tick. -/
def tick? (t : Nat) : Option Nat :=
  let ms := (t + nanosPerMilli - 1) / nanosPerMilli
  if ms < lastTick then some ms else none

/-- Whether the timer for `t` has fired when the clock reads `now`. -/
def due (t now : Nat) : Bool :=
  (tick? t).any fun ms => ms * nanosPerMilli ≤ now

end Clock

end LoadScenario
