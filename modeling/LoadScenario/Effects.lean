import LoadScenario.Chain.Action
import LoadScenario.Clock

/-!
# Effects

Ready-made effects for scenarios and their tests. Most only change the
session; some read the clock, wait, raise the stop signal, or count calls in a
counter shared by every user of a run.

A counter that an effect counts in is named by the caller, so effects that
must share a count are given the same name and effects that must not are
given different ones.
-/

namespace LoadScenario

namespace Effect

/-- An effect that only changes the session. -/
def ofFun (name : String) (f : Session → Session) : Effect := ⟨name, fun s => .pure (f s)⟩

/-- Leaves the session as it is. -/
def noop : Session → Session := id

/-- Adds one to an integer attribute, from `0` if it is missing or not a 64-bit
integer; the sum wraps around the signed 64-bit range. -/
def incr (key : String) (s : Session) : Session :=
  let n : Int64 := match s.getAs key with
    | .ok n => n
    | .error _ => 0
  s.set key (.number (Number.ofInt (n + 1).toInt))

/-- The attribute as text (JSON text for a value that is not a string), or
the empty text if it is missing. -/
def textOf (s : Session) (key : String) : String :=
  match s.getAs key with
  | .ok (t : String) => t
  | .error _ => ""

/-- Appends a piece of text to a text attribute. -/
def append (key piece : String) (s : Session) : Session :=
  s.set key (.string (textOf s key ++ piece))

/-- Appends the text of an expression's value, or `!` and the kind of its error. -/
def appendExpr (key expr : String) (s : Session) : Session :=
  let piece := match evaluate s expr >>= OfValue.ofValue with
    | .ok (t : String) => t
    | .error e => "!" ++ e.kind
  append key piece s

/-- Sets an attribute to an expression's value, or marks the session failed. -/
def setExpr (key expr : String) (s : Session) : Session :=
  match evaluate s expr with
  | .ok v => s.set key v
  | .error _ => s.markFailed

/-- Marks the session failed when the condition holds or cannot be resolved. -/
def failIf (cond : Source Bool) (s : Session) : Session :=
  match cond.resolve s with
  | .ok false => s
  | _ => s.markFailed

/-- Appends the current time to a list attribute, starting a new list if the
attribute is missing or not a list. -/
def stamp (key : String) (s : Session) : Prog Session := do
  let now ← Prog.clock
  let times := match s.getAs key with
    | .ok (xs : List Value) => xs
    | .error _ => []
  pure (s.set key (.array (times ++ [Value.ofCount now])))

/-- Counts a call in a shared counter and fails the session unless it is at
least call number `succeedOn`; without `succeedOn` every call fails. -/
def flaky (counter : String) (succeedOn : Option Nat) (s : Session) : Prog Session := do
  let call ← Prog.tally counter
  match succeedOn with
  | some k => if k ≤ call then pure s else pure s.markFailed
  | none => pure s.markFailed

/-- Counts a call in a shared counter. -/
def count (counter : String) (s : Session) : Prog Session := do
  let _ ← Prog.tally counter
  pure s

/-- Aborts the user with a message. -/
def crash (message : String) (_ : Session) : Prog Session := .panic message

/-- Raises the stop signal for an external reason when `reachesRun` (a signal
the run does not watch changes nothing), then marks the session failed if asked. -/
def stopExternal (message : String) (fail reachesRun : Bool) (s : Session) : Prog Session := do
  if reachesRun then
    let _ ← Prog.raise (.external message)
  pure (if fail then s.markFailed else s)

/-- Waits for a duration, not watching the stop signal. -/
def sleep (d : Duration) (s : Session) : Prog Session := do
  let now ← Prog.clock
  Prog.sleepUntil (Clock.sleepDeadline now d)
  pure s

/-- Waits for a duration through the clock, which cannot wait past its range. -/
def clockSleep (d : Duration) (s : Session) : Prog Session := do
  let now ← Prog.clock
  match Clock.after? now d with
  | some t => Prog.sleepUntil t; pure s
  | none => .panic "overflow when adding duration to instant"

/-- Records the current time in a shared journal. -/
def timestamp (journal : String) (s : Session) : Prog Session := do
  Prog.record journal (← Prog.clock)
  pure s

end Effect

end LoadScenario
