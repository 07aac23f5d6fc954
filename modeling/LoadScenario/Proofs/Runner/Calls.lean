import Mathlib.Logic.Relation
import LoadScenario.Proofs.Runner.Steps

/-!
# The calls a run makes

The runner's six functions call one another: a chain runs its actions, a
block runs its body, a loop and a retry block make passes and attempts. A
`Runner.Call` names one such call with its step budget and arguments, and
`Runner.Calls c c'` says that running `c` may call `c'` directly. It follows
the places in the code where a function calls another, and keeps of the
conditions there only those that fix the arguments of the callee: the session
a checkpoint lets through, the session an earlier action ends with, the
session a block's counter was entered or counted in. So it may relate calls the
runner never makes (a branch to both of its chains), never the other way round,
and a property of every call it reaches holds of every call a run makes.

`Runner.Reaches c c'` is its reflexive and transitive closure: the calls made
at any depth while running `c`. An invariant of calls that every direct call
keeps holds of every call reached (`Reaches.inv`).
-/

namespace LoadScenario

open Prog

namespace Runner

/-- A call of one of the runner's six functions, with its step budget and arguments. -/
inductive Call where
  /-- `runChain n ch s sc` -/
  | chain (n : Nat) (ch : Chain) (s : Session) (sc : Scope)
  /-- `runAction n a s sc` -/
  | action (n : Nat) (a : Action) (s : Session) (sc : Scope)
  /-- `runLoop n g counter exitAsap body s sc` -/
  | loop (n : Nat) (g : LoopGuard) (counter : String) (exitAsap : Bool) (body : Chain)
      (s : Session) (sc : Scope)
  /-- `loopPasses n g counter body plan started s sc` -/
  | passes (n : Nat) (g : LoopGuard) (counter : String) (body : Chain) (plan : Plan)
      (started : Nat) (s : Session) (sc : Scope)
  /-- `runTry n attempts counter body s sc` -/
  | retry (n : Nat) (attempts : Source UInt64) (counter : String) (body : Chain) (s : Session)
      (sc : Scope)
  /-- `attempt n max prior counter body s sc` -/
  | attempts (n : Nat) (max : Nat) (prior : Status) (counter : String) (body : Chain)
      (s : Session) (sc : Scope)

/-- `Calls c c'`: running `c` may call `c'` directly. -/
inductive Calls : Call → Call → Prop
  /-- A chain runs its first action on the session its checkpoint lets through. -/
  | first {n : Nat} {a : Action} {rest : Chain} {s s' : Session} {sc : Scope}
      (hc : Yields (checkpoint s sc) (.ok s')) :
      Calls (.chain (n + 1) (a :: rest) s sc) (.action n a s' sc)
  /-- After an action that goes on, a chain runs the rest on the session it ended with. -/
  | rest {n : Nat} {a : Action} {rest : Chain} {s s' s'' : Session} {sc : Scope}
      (hc : Yields (checkpoint s sc) (.ok s')) (ha : Yields (runAction n a s' sc) (.next s'')) :
      Calls (.chain (n + 1) (a :: rest) s sc) (.chain n rest s'' sc)
  /-- A branch runs one of its chains. -/
  | branch {n : Nat} {c : Condition} {t : Chain} {e : Option Chain} {ch : Chain} {s : Session}
      {sc : Scope} (hch : ch ∈ (Action.branch c t e).children) :
      Calls (.action (n + 1) (.branch c t e) s sc) (.chain n ch s sc)
  /-- A switch runs one of its chains. -/
  | switch {n : Nat} {key : Source Value} {cs : List (Value × Chain)} {e : Option Chain}
      {ch : Chain} {s : Session} {sc : Scope} (hch : ch ∈ (Action.switch key cs e).children) :
      Calls (.action (n + 1) (.switch key cs e) s sc) (.chain n ch s sc)
  /-- A random switch runs one of its chains. -/
  | randomSwitch {n : Nat} {cs : List (Float × Chain)} {e : Option Chain} {ch : Chain}
      {s : Session} {sc : Scope} (hch : ch ∈ (Action.randomSwitch cs e).children) :
      Calls (.action (n + 1) (.randomSwitch cs e) s sc) (.chain n ch s sc)
  /-- A loop action runs the loop. -/
  | loop {n : Nat} {g : LoopGuard} {counter : String} {exitAsap : Bool} {body : Chain}
      {s : Session} {sc : Scope} :
      Calls (.action (n + 1) (.loop g counter exitAsap body) s sc)
        (.loop n g counter exitAsap body s sc)
  /-- A retry action runs the retry block. -/
  | retry {n : Nat} {attempts : Source UInt64} {counter : String} {body : Chain} {s : Session}
      {sc : Scope} :
      Calls (.action (n + 1) (.tryMax attempts counter body) s sc)
        (.retry n attempts counter body s sc)
  /-- An `exitBlockOnFail` runs its body in a frame of its own. -/
  | exitBlock {n : Nat} {body : Chain} {s : Session} {sc : Scope} :
      Calls (.action (n + 1) (.exitBlockOnFail body) s sc)
        (.chain n body s (sc.push .exitOnFail))
  /-- A loop that entered its counter makes its passes in a frame of its own. -/
  | enterLoop {n : Nat} {g : LoopGuard} {counter : String} {exitAsap : Bool} {body : Chain}
      {s s1 : Session} {sc : Scope} {started : Nat} {plan : Plan}
      (he : s.enterCounter counter started = .ok s1) :
      Calls (.loop (n + 1) g counter exitAsap body s sc)
        (.passes n g counter body plan started s1 (sc.push (.loop g counter exitAsap started)))
  /-- A pass runs the body, with a foreach loop's element bound. -/
  | pass {n : Nat} {g : LoopGuard} {counter : String} {body : Chain} {plan : Plan}
      {started : Nat} {s : Session} {sc : Scope} :
      Calls (.passes (n + 1) g counter body plan started s sc)
        (.chain n body (bindElement plan g (s.iterationOf counter) s) sc)
  /-- After a body that goes on, the loop counts the pass and makes the next ones. -/
  | nextPass {n : Nat} {g : LoopGuard} {counter : String} {body : Chain} {plan : Plan}
      {started : Nat} {s s' s'' : Session} {sc : Scope}
      (hb : Yields (runChain n body (bindElement plan g (s.iterationOf counter) s) sc) (.next s'))
      (hi : s'.incrementCounter counter = .ok s'') :
      Calls (.passes (n + 1) g counter body plan started s sc)
        (.passes n g counter body plan started s'' sc)
  /-- A retry block that entered its counter makes its attempts in a frame of its own. -/
  | enterRetry {n : Nat} {attempts : Source UInt64} {counter : String} {body : Chain}
      {s s1 : Session} {sc : Scope} {now max : Nat} (he : s.enterCounter counter now = .ok s1) :
      Calls (.retry (n + 1) attempts counter body s sc)
        (.attempts n max s.status counter body s1 (sc.push .retry))
  /-- An attempt runs the body from a session cleared of its failure. -/
  | attempt {n max : Nat} {prior : Status} {counter : String} {body : Chain} {s : Session}
      {sc : Scope} :
      Calls (.attempts (n + 1) max prior counter body s sc) (.chain n body s.markSucceeded sc)
  /-- After an attempt, the block counts it and makes the next attempts. -/
  | nextAttempt {n max : Nat} {prior : Status} {counter : String} {body : Chain}
      {s s'' : Session} {sc : Scope} {flow : Flow}
      (hb : Yields (runChain n body s.markSucceeded sc) flow)
      (hi : flow.session.incrementCounter counter = .ok s'') :
      Calls (.attempts (n + 1) max prior counter body s sc)
        (.attempts n max prior counter body s'' sc)

/-- The calls made at any depth while running `c`, `c` itself included. -/
def Reaches (c c' : Call) : Prop := Relation.ReflTransGen Calls c c'

/-- An invariant that every direct call keeps holds of every call reached. -/
theorem Reaches.inv {I : Call → Prop} (step : ∀ c c', Calls c c' → I c → I c') {c c' : Call}
    (h : Reaches c c') (hc : I c) : I c' := by
  induction h with
  | refl => exact hc
  | tail _ hcall ih => exact step _ _ hcall ih

end Runner

end LoadScenario
