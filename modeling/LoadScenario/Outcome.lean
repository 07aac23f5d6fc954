import LoadScenario.Session

/-!
# How a virtual user ends

A user completes its chain, leaves it early through an exit, or is stopped by
the run's stop signal. Its outcome is the session it ended with and which of
the three happened.
-/

namespace LoadScenario

/-- How a user's run ended. -/
inductive Termination where
  | completed
  | exited
  | stopped
  deriving DecidableEq, Repr, Inhabited

/-- The lower-case name of a termination. -/
def Termination.name : Termination → String
  | .completed => "completed"
  | .exited => "exited"
  | .stopped => "stopped"

/-- The final session of a user and how its run ended. -/
structure Outcome where
  session : Session
  termination : Termination
  deriving Inhabited

/-- Whether the user's session ended failed. -/
def Outcome.isFailed (o : Outcome) : Bool := o.session.isFailed

end LoadScenario
