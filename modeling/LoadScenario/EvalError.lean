/-!
# Evaluation errors

Why a value could not be produced for a session: an attribute it names is
missing, a value has the wrong shape for the type asked for, an expression is
malformed, or a callback failed. `EvalError.message` holds the wording.
-/

namespace LoadScenario

/-- Why a value source could not produce a value. -/
inductive EvalError where
  | missingAttribute (name : String)
  | typeMismatch (expected found : String)
  | malformed (expression reason : String)
  | callback (message : String)
  deriving DecidableEq, Repr, Inhabited

/-- The text of an evaluation error. -/
def EvalError.message : EvalError → String
  | .missingAttribute name => "no attribute named '" ++ name ++ "' in session"
  | .typeMismatch expected found => "expected " ++ expected ++ ", found " ++ found
  | .malformed expression reason => "malformed expression '" ++ expression ++ "': " ++ reason
  | .callback message => "callback failed: " ++ message

/-- The name of the kind of an evaluation error. -/
def EvalError.kind : EvalError → String
  | .missingAttribute _ => "MissingAttribute"
  | .typeMismatch _ _ => "TypeMismatch"
  | .malformed _ _ => "Malformed"
  | .callback _ => "Callback"

end LoadScenario
