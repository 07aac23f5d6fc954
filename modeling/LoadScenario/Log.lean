import LoadScenario.Json.Value

/-!
# Log events

What a run reports as it goes: a level, a message and named fields. The
runner and the engine emit events in the order things happen, and a reader
sees them in that order.
-/

namespace LoadScenario

/-- How important an event is. -/
inductive Level where
  | debug
  | info
  | warn
  | error
  deriving DecidableEq, Repr, Inhabited

/-- The upper-case name of a level. -/
def Level.name : Level → String
  | .debug => "DEBUG"
  | .info => "INFO"
  | .warn => "WARN"
  | .error => "ERROR"

/-- One event: a level, a message and its fields in the order they were given. -/
structure Event where
  level : Level
  message : String
  fields : List (String × Value) := []
  deriving Inhabited

namespace Event

/-- A debug event. -/
def debug (message : String) (fields : List (String × Value) := []) : Event :=
  ⟨.debug, message, fields⟩

/-- An info event. -/
def info (message : String) (fields : List (String × Value) := []) : Event :=
  ⟨.info, message, fields⟩

/-- A warning event. -/
def warn (message : String) (fields : List (String × Value) := []) : Event :=
  ⟨.warn, message, fields⟩

/-- An error event. -/
def error (message : String) (fields : List (String × Value) := []) : Event :=
  ⟨.error, message, fields⟩

/-- The event as one JSON object: `level`, `message` and its fields, where a
field of the same name as `level` or `message` is the one written. -/
def toValue (e : Event) : Value :=
  .object (Fields.ofList ([("level", .string e.level.name), ("message", .string e.message)] ++ e.fields))

end Event

end LoadScenario
