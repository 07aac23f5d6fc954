import LoadScenario.Source
import LoadScenario.Prog

/-!
# Actions and chains

A chain is the list of actions a virtual user performs in order. Some actions
hold chains of their own: branches and switches pick one, loops and retries
run theirs again and again, and `exitBlockOnFail` runs its own once.

Loops and retries count their passes in a named counter of the session; a
pace action keeps its next deadline under a name as well. Everything an action
reads from the session comes from a `Source`, so it is resolved when the
action runs, not when the chain is built.
-/

namespace LoadScenario

/-- A named change of the session, which may talk to the run while it works. -/
structure Effect where
  name : String := "exec"
  apply : Session → Prog Session

/-- The test of a branch. -/
inductive Condition where
  | predicate (cond : Source Bool)
  | equals (actual expected : Source Value)

/-- How long a pause or a pace interval lasts: fixed, or drawn between two bounds. -/
inductive Interval where
  | fixed (d : Source Duration)
  | uniform (min max : Source Duration)

/-- What keeps a loop going. -/
inductive LoopGuard where
  | times (n : Source UInt64)
  | asLongAs (cond : Option (Source Bool)) (limit : Option (Source Duration))
  | doWhile (cond : Source Bool) (limit : Option (Source Duration))
  | foreach (values : Source (List Value)) (element : String)
  | forever

/-- Only guards with a condition or a time limit can stop holding in the middle of a pass. -/
def LoopGuard.isInterruptible : LoopGuard → Bool
  | .asLongAs _ _ | .doWhile _ _ => true
  | _ => false

/-- When an exit action leaves its block. -/
inductive ExitCondition where
  | always
  | when (cond : Source Bool)
  | ifFailed

/-- One step of a scenario. -/
inductive Action where
  | exec (effect : Effect)
  | branch (cond : Condition) (thenChain : List Action) (elseChain : Option (List Action))
  | switch (key : Source Value) (choices : List (Value × List Action))
      (elseChain : Option (List Action))
  | randomSwitch (choices : List (Float × List Action)) (elseChain : Option (List Action))
  | loop (guard : LoopGuard) (counter : String) (exitAsap : Bool) (body : List Action)
  | tryMax (attempts : Source UInt64) (counter : String) (body : List Action)
  | exitBlockOnFail (body : List Action)
  | pace (interval : Interval) (counter : String)
  | pause (interval : Interval)
  | feed (source : String) (name : String)
  | exit (cond : ExitCondition)
  | stopInjector (message : Source String)

/-- A scenario's list of actions. -/
abbrev Chain := List Action

namespace Action

/-- The name of an action's kind. -/
def kind : Action → String
  | .exec _ => "exec"
  | .branch .. => "branch"
  | .switch .. => "switch"
  | .randomSwitch .. => "random_switch"
  | .loop .. => "loop"
  | .tryMax .. => "try_max"
  | .exitBlockOnFail _ => "exit_block_on_fail"
  | .pace .. => "pace"
  | .pause _ => "pause"
  | .feed .. => "feed"
  | .exit _ => "exit"
  | .stopInjector _ => "stop_injector"

/-- The counter of a loop or retry block. -/
def scopeCounter? : Action → Option String
  | .loop _ c _ _ => some c
  | .tryMax _ c _ => some c
  | _ => none

/-- The chains an action holds, in order, the else chain last. -/
def children : Action → List Chain
  | .branch _ t e => t :: e.toList
  | .switch _ cs e => cs.map (·.2) ++ e.toList
  | .randomSwitch cs e => cs.map (·.2) ++ e.toList
  | .loop _ _ _ b => [b]
  | .tryMax _ _ b => [b]
  | .exitBlockOnFail b => [b]
  | _ => []

end Action

mutual

/-- Whether the action or an action inside it is a block counting in `name`. -/
def Action.usesCounter (name : String) : Action → Bool
  | .branch _ t e => Chain.usesCounter name t || Chain.usesCounterElse name e
  | .switch _ cs e => Chain.usesCounterKeyed name cs || Chain.usesCounterElse name e
  | .randomSwitch cs e => Chain.usesCounterWeighted name cs || Chain.usesCounterElse name e
  | .loop _ c _ b => c == name || Chain.usesCounter name b
  | .tryMax _ c b => c == name || Chain.usesCounter name b
  | .exitBlockOnFail b => Chain.usesCounter name b
  | _ => false

/-- Whether some action of the chain uses the counter. -/
def Chain.usesCounter (name : String) : List Action → Bool
  | [] => false
  | a :: rest => a.usesCounter name || Chain.usesCounter name rest

/-- Whether an else chain, if there is one, uses the counter. -/
def Chain.usesCounterElse (name : String) : Option (List Action) → Bool
  | none => false
  | some c => Chain.usesCounter name c

/-- Whether a chain of a switch uses the counter. -/
def Chain.usesCounterKeyed (name : String) : List (Value × List Action) → Bool
  | [] => false
  | (_, c) :: rest => Chain.usesCounter name c || Chain.usesCounterKeyed name rest

/-- Whether a chain of a random switch uses the counter. -/
def Chain.usesCounterWeighted (name : String) : List (Float × List Action) → Bool
  | [] => false
  | (_, c) :: rest => Chain.usesCounter name c || Chain.usesCounterWeighted name rest

end

end LoadScenario
