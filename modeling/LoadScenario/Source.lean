import LoadScenario.Expression.Eval

/-!
# Value sources

Every parameter of a scenario (a condition, a duration, a count, a switch key)
is a source: a constant, an expression evaluated against the session and read
as the wanted type, or a callback on the session. All three resolve the same
way, so an action never cares which one it was given.
-/

namespace LoadScenario

/-- Where a parameter's value comes from. -/
inductive Source (α : Type) where
  | const (v : α)
  | expr (text : String)
  | callback (f : Session → Except EvalError α)

/-- An attribute read as a typed value; a missing attribute is an error. -/
def Session.getAs {α : Type} [OfValue α] (s : Session) (key : String) : Except EvalError α :=
  match s.get? key with
  | some v => OfValue.ofValue v
  | none => .error (.missingAttribute key)

namespace Source

variable {α : Type}

/-- The value of a source for a session. -/
def resolve [OfValue α] (src : Source α) (s : Session) : Except EvalError α :=
  match src with
  | .const v => .ok v
  | .expr text => evaluate s text >>= OfValue.ofValue
  | .callback f => f s

/-- The constant of a constant source. -/
def const? : Source α → Option α
  | .const v => some v
  | _ => none

end Source

end LoadScenario
