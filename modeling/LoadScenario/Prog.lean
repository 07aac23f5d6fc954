import LoadScenario.Stop
import LoadScenario.Log
import LoadScenario.Feeder.Basic
import LoadScenario.Outcome

/-!
# Programs that talk to a run

A virtual user does not own the clock, the stop signal, the feeders or the
shared counters: it asks the run for them. A `Prog α` is a program that
either is finished with a result of type `α` or makes one request to the run
and continues with the answer. The run answers requests in the order they
are made, so the same program gives the same result against the same run.

Requests:

* `now`: nanoseconds since the run started;
* `sleep d`: wait until time `d`; `sleepOrStop d`: wait until time `d` or until
  the stop signal is raised, answering whether the time came first;
* `yield`: let every other ready task run before continuing;
* `signal`, `stop r`: read the reason the run was stopped for, if it was, or
  raise the run's stop signal;
* `draw lo hi`: a double drawn uniformly from `[lo, hi)` by the user's generator;
* `feed f`: the next record of the record source `f`;
* `bump k`: add one to the shared counter `k`, answering its new value;
* `note k t`: add the time `t` to the shared journal `k`;
* `log e`: emit an event;
* `panic m`: abort the task with a message;
* `spawn t`: start a task of the run (a virtual user or the run's deadline);
* `joinUsers`: wait until every user started so far has ended, answering
  their outcomes in the order they were started, none for a user that panicked.

A program that would run on beyond its step budget ends as `outOfFuel`.
Properties of all runs are stated with `Prog.All`: every result reachable
under any answers satisfies the predicate.
-/

namespace LoadScenario

/-- A task a program can start: a virtual user by its index, or the watch
that raises the stop signal at the run's deadline. -/
inductive Spawn where
  | user (index : Nat)
  | watchdog (deadline : Nat)
  deriving DecidableEq, Repr

/-- A program making requests to the run and ending with a result. -/
inductive Prog (α : Type) where
  | pure (a : α)
  | now (k : Nat → Prog α)
  | sleep (deadline : Nat) (k : Prog α)
  | sleepOrStop (deadline : Nat) (k : Bool → Prog α)
  | yield (k : Prog α)
  | signal (k : Option StopReason → Prog α)
  | stop (reason : StopReason) (k : Bool → Prog α)
  | draw (low high : Float) (k : Float → Prog α)
  | feed (source : String) (k : Except FeederError Record → Prog α)
  | bump (key : String) (k : Nat → Prog α)
  | note (key : String) (time : Nat) (k : Prog α)
  | log (event : Event) (k : Prog α)
  | panic (message : String)
  | spawn (task : Spawn) (k : Prog α)
  | joinUsers (k : List (Option Outcome) → Prog α)
  | outOfFuel

namespace Prog

variable {α β : Type}

/-- Runs `p`, then `f` on its result. -/
def bind : Prog α → (α → Prog β) → Prog β
  | .pure a, f => f a
  | .now k, f => .now fun t => bind (k t) f
  | .sleep d k, f => .sleep d (bind k f)
  | .sleepOrStop d k, f => .sleepOrStop d fun b => bind (k b) f
  | .yield k, f => .yield (bind k f)
  | .signal k, f => .signal fun r => bind (k r) f
  | .stop r k, f => .stop r fun b => bind (k b) f
  | .draw lo hi k, f => .draw lo hi fun x => bind (k x) f
  | .feed s k, f => .feed s fun r => bind (k r) f
  | .bump key k, f => .bump key fun n => bind (k n) f
  | .note key t k, f => .note key t (bind k f)
  | .log e k, f => .log e (bind k f)
  | .panic m, _ => .panic m
  | .spawn t k, f => .spawn t (bind k f)
  | .joinUsers k, f => .joinUsers fun os => bind (k os) f
  | .outOfFuel, _ => .outOfFuel

instance : Monad Prog where
  pure := .pure
  bind := bind

/-- The current time. -/
def clock : Prog Nat := .now .pure

/-- Waits until the deadline, whatever happens to the stop signal. -/
def sleepUntil (deadline : Nat) : Prog Unit := .sleep deadline (.pure ())

/-- Waits until the deadline or the stop signal; `true` when the deadline came first. -/
def waitUntil (deadline : Nat) : Prog Bool := .sleepOrStop deadline .pure

/-- Lets the other ready tasks run. -/
def pass : Prog Unit := .yield (.pure ())

/-- Whether the stop signal is raised. -/
def stopped : Prog Bool := .signal fun r => .pure r.isSome

/-- The reason the run was stopped for, if it was. -/
def stopReason : Prog (Option StopReason) := .signal .pure

/-- Raises the stop signal; `true` if this raise was the first. -/
def raise (r : StopReason) : Prog Bool := .stop r .pure

/-- A double drawn uniformly from `[low, high)`. -/
def uniform (low high : Float) : Prog Float := .draw low high .pure

/-- The next record of a record source. -/
def nextRecord (source : String) : Prog (Except FeederError Record) := .feed source .pure

/-- Adds one to a shared counter and answers its new value. -/
def tally (key : String) : Prog Nat := .bump key .pure

/-- Adds a time to a shared journal. -/
def record (key : String) (time : Nat) : Prog Unit := .note key time (.pure ())

/-- Emits an event. -/
def emit (e : Event) : Prog Unit := .log e (.pure ())

/-- Starts a task. -/
def start (t : Spawn) : Prog Unit := .spawn t (.pure ())

/-- Waits for every user started so far. -/
def joinAll : Prog (List (Option Outcome)) := .joinUsers .pure

/-- Every result the program can end with, under any answers to its requests,
satisfies `P`. A program that panics or runs out of fuel ends with no result. -/
def All (P : α → Prop) : Prog α → Prop
  | .pure a => P a
  | .now k => ∀ t, All P (k t)
  | .sleep _ k => All P k
  | .sleepOrStop _ k => ∀ b, All P (k b)
  | .yield k => All P k
  | .signal k => ∀ r, All P (k r)
  | .stop _ k => ∀ b, All P (k b)
  | .draw _ _ k => ∀ x, All P (k x)
  | .feed _ k => ∀ r, All P (k r)
  | .bump _ k => ∀ n, All P (k n)
  | .note _ _ k => All P k
  | .log _ k => All P k
  | .panic _ => True
  | .spawn _ k => All P k
  | .joinUsers k => ∀ os, All P (k os)
  | .outOfFuel => True

@[simp]
theorem bind_pure (a : α) (f : α → Prog β) : bind (.pure a) f = f a := rfl

/-- A property of every result of `p` that `f` maps into a property of every
result of `f`'s program holds for every result of the sequence. -/
theorem All.bind {P : α → Prop} {Q : β → Prop} {p : Prog α} {f : α → Prog β}
    (hp : All P p) (hf : ∀ a, P a → All Q (f a)) : All Q (Prog.bind p f) := by
  induction p with
  | pure a => exact hf a hp
  | now k ih => exact fun t => ih t (hp t)
  | sleep d k ih => exact ih hp
  | sleepOrStop d k ih => exact fun b => ih b (hp b)
  | yield k ih => exact ih hp
  | signal k ih => exact fun r => ih r (hp r)
  | stop r k ih => exact fun b => ih b (hp b)
  | draw lo hi k ih => exact fun x => ih x (hp x)
  | feed s k ih => exact fun r => ih r (hp r)
  | bump key k ih => exact fun n => ih n (hp n)
  | note key t k ih => exact ih hp
  | log e k ih => exact ih hp
  | panic m => trivial
  | spawn t k ih => exact ih hp
  | joinUsers k ih => exact fun os => ih os (hp os)
  | outOfFuel => trivial

end Prog

end LoadScenario
