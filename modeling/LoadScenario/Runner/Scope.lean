import LoadScenario.Chain.Action
import LoadScenario.Clock

/-!
# Scopes and flows

While a user runs its chain, every block it is inside (a loop, a retry, an
`exitBlockOnFail`) is a frame of the scope. A frame's id is its depth: the
outermost frame has id `0` and a nested frame the id of its parent plus one.

Running an action gives a flow: go on with the next action, or leave. Leaving
is either an interrupt aimed at the frame with a given id, which that frame
catches, or an exit or a stop, which end the whole run of the user. Three
things interrupt a block:

* an exit action ends the innermost frame;
* a failed session ends the innermost retry or `exitBlockOnFail` frame;
* an `exitAsap` loop whose guard stops holding ends that loop, and when
  several do at once the outermost of them.
-/

namespace LoadScenario

/-- Why a block was interrupted. -/
inductive Cause where
  | exit
  | failure
  | guard
  deriving DecidableEq, Repr

/-- What happens after an action. -/
inductive Flow where
  | next (s : Session)
  | interrupt (s : Session) (scope : Nat) (cause : Cause)
  | exit (s : Session)
  | stopped (s : Session)

namespace Flow

/-- The session a flow carries. -/
def session : Flow → Session
  | .next s | .interrupt s _ _ | .exit s | .stopped s => s

/-- The flow with its session changed by `f`. -/
def mapSession (f : Session → Session) : Flow → Flow
  | .next s => .next (f s)
  | .interrupt s id c => .interrupt (f s) id c
  | .exit s => .exit (f s)
  | .stopped s => .stopped (f s)

end Flow

/-- What kind of block a frame is; a loop frame keeps its guard and when it started. -/
inductive FrameKind where
  | loop (guard : LoopGuard) (counter : String) (exitAsap : Bool) (started : Nat)
  | retry
  | exitOnFail

/-- A block the user is inside. -/
structure Frame where
  id : Nat
  kind : FrameKind

/-- The frames the user is inside, innermost first. -/
abbrev Scope := List Frame

/-- The scope with a new innermost frame, whose id is one more than its parent's. -/
def Scope.push (sc : Scope) (k : FrameKind) : Scope :=
  match sc with
  | [] => [⟨0, k⟩]
  | f :: _ => ⟨f.id + 1, k⟩ :: sc

/-- Whether a frame catches failures. -/
def FrameKind.catchesFailure : FrameKind → Bool
  | .retry | .exitOnFail => true
  | .loop .. => false

/-- Whether a loop guard holds at time `now` for a loop started at `started`:
first the time limit, then the condition when `checkCondition` is set. Guards
without a condition or a limit always hold. -/
def LoopGuard.holds (g : LoopGuard) (started now : Nat) (s : Session) (checkCondition : Bool) :
    Except EvalError Bool :=
  match g with
  | .asLongAs c l => within c l
  | .doWhile c l => within (some c) l
  | _ => .ok true
where
  /-- The check of an optional condition and an optional time limit. -/
  within (c : Option (Source Bool)) (l : Option (Source Duration)) : Except EvalError Bool :=
    match l with
    | some l =>
      match l.resolve s with
      | .error e => .error e
      | .ok limit => if limit.nanos ≤ now - started then .ok false else condition c
    | none => condition c
  /-- The check of an optional condition. -/
  condition (c : Option (Source Bool)) : Except EvalError Bool :=
    match c with
    | some c => if checkCondition then c.resolve s else .ok true
    | none => .ok true

/-- Whether an `exitAsap` loop frame must end now, and the error if its guard
failed to resolve. A do-while loop's first pass only checks the time limit. -/
def Frame.lapsed? (now : Nat) (s : Session) (f : Frame) : Option (Option EvalError) :=
  match f.kind with
  | .loop g counter true started =>
    let firstPass := (match g with | .doWhile .. => true | _ => false) &&
      ((s.counter? counter).map (·.iteration)).getD 0 == 0
    match g.holds started now s (!firstPass) with
    | .ok true => none
    | .ok false => some none
    | .error e => some (some e)
  | _ => none

/-- The outermost frame that must end now, with the error of its guard. -/
def Scope.lapsed? (now : Nat) (s : Session) (sc : Scope) : Option (Nat × Option EvalError) :=
  outermost sc.reverse
where
  /-- The first lapsed frame of a list of frames, outermost first. -/
  outermost : List Frame → Option (Nat × Option EvalError)
    | [] => none
    | f :: rest =>
      match f.lapsed? now s with
      | some e => some (f.id, e)
      | none => outermost rest

/-- The innermost frame catching failures. -/
def Scope.catcher? (sc : Scope) : Option Frame :=
  sc.find? (·.kind.catchesFailure)

/-- Leaves a counter's block at time `now`; a counter not in use is left as it is. -/
def Session.leave (s : Session) (counter : String) (now : Nat) : Session :=
  match s.exitCounter counter now with
  | .ok s' => s'
  | .error _ => s

/-- The iteration a counter has reached, `0` for a counter never entered. -/
def Session.iterationOf (s : Session) (counter : String) : Nat :=
  ((s.counter? counter).map (·.iteration)).getD 0

end LoadScenario
