/-!
# The stop signal

One stop signal is shared by a whole run. It is raised at most once: the first
reason is kept and a later raise changes nothing.
-/

namespace LoadScenario

/-- Why a run was stopped. -/
inductive StopReason where
  | injector (message : String)
  | maxDuration
  | external (message : String)
  deriving DecidableEq, Repr, Inhabited

/-- The text of a stop reason. -/
def StopReason.display : StopReason → String
  | .injector m => "stop_injector: " ++ m
  | .maxDuration => "maximum duration reached"
  | .external m => "external stop: " ++ m

/-- The shared stop signal: the reason it was raised for, if it was. -/
structure StopSignal where
  reason : Option StopReason := none
  deriving DecidableEq, Repr, Inhabited

namespace StopSignal

/-- Whether the signal was raised. -/
def isStopped (s : StopSignal) : Bool := s.reason.isSome

/-- Raises the signal; `true` only if it was not raised before, whose reason then stays. -/
def raise (s : StopSignal) (r : StopReason) : Bool × StopSignal :=
  match s.reason with
  | some _ => (false, s)
  | none => (true, ⟨some r⟩)

/-- The first reason is kept. -/
theorem raise_keeps_first (s : StopSignal) (r : StopReason) (h : s.isStopped = true) :
    (s.raise r).2 = s := by
  cases s with
  | mk reason => cases reason <;> simp_all [raise, isStopped]

end StopSignal

end LoadScenario
