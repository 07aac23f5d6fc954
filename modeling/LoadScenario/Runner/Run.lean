import LoadScenario.Runner.Scope
import LoadScenario.Chain.Build

/-!
# Running a chain

How one virtual user performs its chain, threading one session through the
actions, depth first. Before every action a checkpoint looks at the stop
signal, at `exitAsap` loops whose guard stopped holding, and at a failed
session inside a block that catches failures. Every wait is raced against the
stop signal.

An action that cannot resolve what it needs does not stop the user: it marks
the session failed, logs why, and the user goes on with the next action.

The interpreter takes a step budget: every action, and every pass of a loop or
a retry, spends one step, and a run that would need more ends as
`Prog.outOfFuel`.
-/

namespace LoadScenario

/-- Whether a branch's condition holds. -/
def Condition.holds (c : Condition) (s : Session) : Except EvalError Bool :=
  match c with
  | .predicate p => p.resolve s
  | .equals actual expected => do
    let a ← actual.resolve s
    let e ← expected.resolve s
    pure (Value.equal a e)

/-- The chain a draw from `[0, 100)` picks: the first choice whose running sum
of weights exceeds the draw. When the weights fall short of 100 only by
rounding, the last choice takes the rest; otherwise the rest picks nothing. -/
def Runner.choose (draw : Float) (choices : List (Float × Chain)) : Option Chain :=
  go 0 choices
where
  /-- The scan, with the sum of the weights so far. -/
  go (sum : Float) : List (Float × Chain) → Option Chain
    | [] => if 100 - sum ≤ weightEpsilon then (choices.getLast?).map (·.2) else none
    | (w, c) :: rest => if draw < sum + w then some c else go (sum + w) rest

/-- A duration drawn between two bounds from a draw over the seconds as
doubles: the draw's duration clamped to the bounds, or the lower bound if the
draw has no duration. Bounds the wrong way round abort the user, as a clamp
does. -/
def Runner.clampDraw (lo hi : Duration) (secs : Float) : Prog Duration :=
  match Duration.ofSecsFloat? secs with
  | some d =>
    match d.clamp? lo hi with
    | some d => pure d
    | none => .panic "assertion failed: min <= max"
  | none => pure lo

/-- The length of an interval for the session. A uniform interval is its
lower bound when the bounds' seconds as doubles are not apart, else a draw
between them. -/
def Interval.draw (i : Interval) (s : Session) : Prog (Except EvalError Duration) :=
  match i with
  | .fixed d => pure (d.resolve s)
  | .uniform lo hi =>
    match lo.resolve s with
    | .error e => pure (.error e)
    | .ok lo =>
      match hi.resolve s with
      | .error e => pure (.error e)
      | .ok hi =>
        if hi.toSecsFloat ≤ lo.toSecsFloat then pure (.ok lo)
        else do
          let secs ← Prog.uniform lo.toSecsFloat hi.toSecsFloat
          let d ← Runner.clampDraw lo hi secs
          pure (.ok d)

/-- How a loop goes on: a count of passes, a list of values, or its guard. -/
inductive Plan where
  | times (n : Nat)
  | each (values : List Value)
  | guarded

/-- The plan of a loop guard, resolved when the loop starts. -/
def LoopGuard.plan (g : LoopGuard) (s : Session) : Except EvalError Plan :=
  match g with
  | .times n => (n.resolve s).map fun n => .times n.toNat
  | .foreach vs _ => (vs.resolve s).map .each
  | _ => .ok .guarded

namespace Runner

open Prog (clock stopped waitUntil uniform emit nextRecord raise pass)

/-- Marks the session failed, logging which action failed and why. -/
def fail (s : Session) (action : String) (error : String) : Prog Session := do
  emit (.warn "session marked as failed" [("action", .string action), ("error", .string error)])
  pure s.markFailed

/-- The flow after a failed action: the session marked failed, and on with the next action. -/
def failNext (s : Session) (action : String) (error : String) : Prog Flow := do
  pure (.next (← fail s action error))

/-- Waits until the deadline unless the run stops first; `false` when it stopped. -/
def wait (deadline : Nat) : Prog Bool := do
  if ← stopped then pure false else waitUntil deadline

/-- The checks before an action: a stop, a lapsed `exitAsap` loop (outermost
first), then a failed session inside a block that catches failures. -/
def checkpoint (s : Session) (sc : Scope) : Prog (Except Flow Session) := do
  if ← stopped then return .error (.stopped s)
  match sc with
  | [] => pure (.ok s)
  | _ =>
    let now ← clock
    match sc.lapsed? now s with
    | some (id, err) =>
      let s ← match err with
        | some e => fail s "loop" e.message
        | none => pure s
      pure (.error (.interrupt s id .guard))
    | none =>
      if s.isFailed then
        match sc.catcher? with
        | some f => pure (.error (.interrupt s f.id .failure))
        | none => pure (.ok s)
      else pure (.ok s)

/-- The flow of an exit: an interrupt of the innermost frame, or the end of the
user's run outside every block. -/
def exitFlow (s : Session) (sc : Scope) : Flow :=
  match sc with
  | [] => .exit s
  | f :: _ => .interrupt s f.id .exit

/-- A pace: wait until the pace point's deadline, then set the next one a
drawn interval later. The first pace only sets the deadline. A deadline already
past is logged as an overrun and not waited for. -/
def pace (interval : Interval) (counter : String) (s : Session) : Prog Flow := do
  match ← interval.draw s with
  | .error e => failNext s "pace" e.message
  | .ok target =>
    let now ← clock
    match s.paceDeadline? counter with
    | none =>
      match Clock.deadline now target with
      | .ok d => pure (.next (s.withPaceDeadline counter d))
      | .error e => failNext s "pace" e.message
    | some nextAllowed =>
      let go : Prog Bool :=
        if now < nextAllowed then wait nextAllowed
        else do
          let overrun := min ((now - nextAllowed) / Clock.nanosPerMilli) (Nat.pow 2 64 - 1)
          emit (.warn "pace interval overrun, proceeding immediately"
            [("pace", .string counter), ("overrun_ms", Value.ofNat overrun)])
          pure true
      if ← go then
        match Clock.deadline nextAllowed target with
        | .ok d => pure (.next (s.withPaceDeadline counter d))
        | .error e => failNext s "pace" e.message
      else pure (.stopped s)

/-- A pause for a drawn interval. -/
def pause (interval : Interval) (s : Session) : Prog Flow := do
  match ← interval.draw s with
  | .error e => failNext s "pause" e.message
  | .ok d =>
    let now ← clock
    match Clock.deadline now d with
    | .error e => failNext s "pause" e.message
    | .ok deadline => if ← wait deadline then pure (.next s) else pure (.stopped s)

/-- A feed: the next record's fields become attributes. -/
def feed (source : String) (s : Session) : Prog Flow := do
  match ← nextRecord source with
  | .ok r => pure (.next (s.setAll r))
  | .error e => failNext s "feed" e.message

/-- A stop injector: log, raise the stop signal, and stop. -/
def stopInjector (message : Source String) (s : Session) : Prog Flow := do
  let m := match message.resolve s with
    | .ok m => m
    | .error e => "unresolved message (" ++ e.message ++ ")"
  emit (.error "stop_injector fired, stopping the run" [("message", .string m)])
  let _ ← raise (.injector m)
  pure (.stopped s)

/-- Whether a loop makes another pass, at the start of pass `iteration`. -/
def proceed (plan : Plan) (g : LoopGuard) (started : Nat) (s : Session) (iteration : Nat) :
    Prog (Except EvalError Bool) :=
  match plan, g with
  | .times n, _ => pure (.ok (decide (iteration < n)))
  | .each vs, _ => pure (.ok (decide (iteration < vs.length)))
  | .guarded, .doWhile .. =>
    if iteration = 0 then pure (.ok true)
    else do pure (g.holds started (← clock) s true)
  | .guarded, _ => do pure (g.holds started (← clock) s true)

/-- A foreach loop sets its element to the value of the pass. -/
def bindElement (plan : Plan) (g : LoopGuard) (iteration : Nat) (s : Session) : Session :=
  match plan, g with
  | .each vs, .foreach _ element =>
    match vs[iteration]? with
    | some v => s.set element v
    | none => s
  | _, _ => s

/-- Leaves a block's counter at the current time. -/
def leaveNow (s : Session) (counter : String) : Prog Session := do
  pure (s.leave counter (← clock))

/-- The flow of a block that ends normally: its counter left, on with the next action. -/
def finish (s : Session) (counter : String) : Prog Flow := do
  pure (.next (← leaveNow s counter))

/-- The flow leaving a block through an interrupt it does not catch, an exit or a stop. -/
def passOn (flow : Flow) (counter : String) : Prog Flow := do
  let now ← clock
  pure (flow.mapSession (·.leave counter now))

mutual

/-- Runs the actions of a chain in order, each after its checkpoint. -/
def runChain : Nat → Chain → Session → Scope → Prog Flow
  | 0, _, _, _ => .outOfFuel
  | _ + 1, [], s, _ => pure (.next s)
  | fuel + 1, a :: rest, s, sc => do
    match ← checkpoint s sc with
    | .error flow => pure flow
    | .ok s =>
      match ← runAction fuel a s sc with
      | .next s => runChain fuel rest s sc
      | flow => pure flow

/-- Runs one action. -/
def runAction : Nat → Action → Session → Scope → Prog Flow
  | 0, _, _, _ => .outOfFuel
  | fuel + 1, a, s, sc =>
    match a with
    | .exec e => do pure (.next (← e.apply s))
    | .branch c t e =>
      match c.holds s with
      | .ok true => runChain fuel t s sc
      | .ok false =>
        match e with
        | some ch => runChain fuel ch s sc
        | none => pure (.next s)
      | .error err => failNext s a.kind err.message
    | .switch key cs e =>
      match key.resolve s with
      | .ok k =>
        match ((cs.find? fun c => Value.equal k c.1).map (·.2)).or e with
        | some ch => runChain fuel ch s sc
        | none => pure (.next s)
      | .error err => failNext s a.kind err.message
    | .randomSwitch cs e => do
      let draw ← uniform 0 100
      match (choose draw cs).or e with
      | some ch => runChain fuel ch s sc
      | none => pure (.next s)
    | .loop g counter exitAsap body => runLoop fuel g counter exitAsap body s sc
    | .tryMax attempts counter body => runTry fuel attempts counter body s sc
    | .exitBlockOnFail body => do
      let inner := sc.push .exitOnFail
      match ← runChain fuel body s inner with
      | .interrupt s id c =>
        if some id = (inner.head?.map (·.id)) then pure (.next s) else pure (.interrupt s id c)
      | flow => pure flow
    | .pace interval counter => pace interval counter s
    | .pause interval => pause interval s
    | .feed source _ => feed source s
    | .exit c =>
      let decision : Except EvalError Bool := match c with
        | .always => .ok true
        | .when cond => cond.resolve s
        | .ifFailed => .ok s.isFailed
      match decision with
      | .ok true => pure (exitFlow s sc)
      | .ok false => pure (.next s)
      | .error err => failNext s a.kind err.message
    | .stopInjector m => stopInjector m s

/-- Runs a loop: enter its counter, resolve its plan, and make passes. -/
def runLoop : Nat → LoopGuard → String → Bool → Chain → Session → Scope → Prog Flow
  | 0, _, _, _, _, _, _ => .outOfFuel
  | fuel + 1, g, counter, exitAsap, body, s, sc => do
    let started ← clock
    match s.enterCounter counter started with
    | .error e => failNext s "loop" e.message
    | .ok s =>
      match g.plan s with
      | .error e => finish (← fail s "loop" e.message) counter
      | .ok plan =>
        loopPasses fuel g counter body plan started s (sc.push (.loop g counter exitAsap started))

/-- The passes of a loop, from the current iteration of its counter on. -/
def loopPasses : Nat → LoopGuard → String → Chain → Plan → Nat → Session → Scope → Prog Flow
  | 0, _, _, _, _, _, _, _ => .outOfFuel
  | fuel + 1, g, counter, body, plan, started, s, sc => do
    if ← stopped then return .stopped (← leaveNow s counter)
    let iteration := s.iterationOf counter
    match ← proceed plan g started s iteration with
    | .ok false => finish s counter
    | .error e => finish (← fail s "loop" e.message) counter
    | .ok true =>
      match ← runChain fuel body (bindElement plan g iteration s) sc with
      | .next s =>
        match s.incrementCounter counter with
        | .error e => finish (← fail s "loop" e.message) counter
        | .ok s => do
          pass
          loopPasses fuel g counter body plan started s sc
      | .interrupt s id c =>
        if some id = (sc.head?.map (·.id)) then finish s counter
        else passOn (.interrupt s id c) counter
      | flow => passOn flow counter

/-- Runs a retry block: resolve the number of attempts, enter the counter, and attempt. -/
def runTry : Nat → Source UInt64 → String → Chain → Session → Scope → Prog Flow
  | 0, _, _, _, _, _ => .outOfFuel
  | fuel + 1, attempts, counter, body, s, sc =>
    match attempts.resolve s with
    | .error e => failNext s "try_max" e.message
    | .ok max =>
      if max.toNat = 0 then
        failNext s "try_max" (EvalError.typeMismatch "at least one attempt" "0").message
      else do
        let prior := s.status
        let now ← clock
        match s.enterCounter counter now with
        | .error e => failNext s "try_max" e.message
        | .ok s => attempt fuel max.toNat prior counter body s (sc.push .retry)

/-- The attempts of a retry block, from the current iteration of its counter
on. Each attempt starts from a succeeded session; a success restores the status
from before the block, and the last failure is kept. -/
def attempt : Nat → Nat → Status → String → Chain → Session → Scope → Prog Flow
  | 0, _, _, _, _, _, _ => .outOfFuel
  | fuel + 1, max, prior, counter, body, s, sc => do
    let n := s.iterationOf counter
    let result : Except Flow (Session × Bool) :=
      match ← runChain fuel body s.markSucceeded sc with
      | .next s => .ok (s, false)
      | .interrupt s id c =>
        if some id = (sc.head?.map (·.id)) then .ok (s, c == .exit) else .error (.interrupt s id c)
      | flow => .error flow
    match result with
    | .error flow => passOn flow counter
    | .ok (s, true) => finish s counter
    | .ok (s, false) =>
      if !s.isFailed then finish (s.withStatus prior) counter
      else if max ≤ n + 1 then do
        emit (.debug "try_max gave up" [("attempts", Value.ofNat max)])
        finish s counter
      else do
        emit (.debug "try_max retrying" [("attempt", Value.ofNat (n + 1)), ("max", Value.ofNat max)])
        match s.incrementCounter counter with
        | .error e => finish (← fail s "try_max" e.message) counter
        | .ok s =>
          if ← stopped then passOn (.stopped s) counter
          else attempt fuel max prior counter body s sc

end

/-- A user's whole run: its chain from the given session, outside every
block, logged at start and end. -/
def runUser (fuel : Nat) (chain : Chain) (s : Session) : Prog Outcome := do
  emit (.debug "user started")
  let flow ← runChain fuel chain s []
  let outcome : Outcome := match flow with
    | .next s => ⟨s, .completed⟩
    | .interrupt s _ _ | .exit s => ⟨s, .exited⟩
    | .stopped s => ⟨s, .stopped⟩
  emit (.debug "user finished"
    [("termination", .string outcome.termination.name), ("failed", .bool outcome.isFailed)])
  pure outcome

end Runner

end LoadScenario
