import LoadScenario.Duration

/-!
# Engine configuration

How many users a run starts and when (all at once, or spread evenly over a
ramp), the seed of their generators, and an optional limit on the run's
length. A configuration is valid when it starts at least one user, and its
limit and ramp are positive and at most a hundred years of 365 days.
-/

namespace LoadScenario

/-- How users are started. -/
inductive Injection where
  | atOnce (users : Nat)
  | ramp (users overSecs : Nat)
  deriving DecidableEq, Repr, Inhabited

namespace Injection

/-- How many users are started. -/
def users : Injection → Nat
  | .atOnce n | .ramp n _ => n

/-- When user `index` starts, after the run's start: at once, or the share
`index / users` of the ramp, computed in doubles. -/
def offset (inj : Injection) (index : Nat) : Except Duration.FromSecsError Duration :=
  match inj with
  | .atOnce _ => .ok .zero
  | .ramp users overSecs =>
    if users = 0 then .ok .zero
    else (Duration.ofSecs overSecs).mulFloat (Decimal.ofNat index / Decimal.ofNat users)

end Injection

/-- A run's configuration. -/
structure EngineConfig where
  injection : Injection := .atOnce 1
  seed : Option UInt64 := none
  maxDurationSecs : Option Nat := none
  deriving DecidableEq, Repr, Inhabited

/-- Why a configuration was refused. -/
inductive ConfigError where
  | io (message : String)
  | parse (message : String)
  | invalid (message : String)
  deriving DecidableEq, Repr

namespace ConfigError

/-- The text of a configuration error. -/
def message : ConfigError → String
  | .io m => "failed to read configuration: " ++ m
  | .parse m => "failed to parse configuration: " ++ m
  | .invalid m => "invalid configuration: " ++ m

/-- The name of the error's kind. -/
def kind : ConfigError → String
  | .io _ => "Io"
  | .parse _ => "Parse"
  | .invalid _ => "Invalid"

end ConfigError

/-- The longest limit or ramp a configuration may ask for: a hundred years of 365 days. -/
def maxConfiguredSecs : Nat := 100 * 365 * 24 * 60 * 60

namespace EngineConfig

/-- The limit on the run's length. -/
def maxDuration (c : EngineConfig) : Option Duration := c.maxDurationSecs.map Duration.ofSecs

/-- Checks a configuration, reporting the first problem. -/
def validate (c : EngineConfig) : Except ConfigError Unit :=
  if c.injection.users = 0 then .error (.invalid "injection must start at least one user")
  else if c.maxDurationSecs = some 0 then
    .error (.invalid "max_duration_secs must be greater than zero")
  else if c.maxDurationSecs.any (maxConfiguredSecs < ·) then
    .error (.invalid ("max_duration_secs must not exceed " ++ toString maxConfiguredSecs))
  else match c.injection with
    | .ramp _ overSecs =>
      if maxConfiguredSecs < overSecs then
        .error (.invalid ("ramp over_secs must not exceed " ++ toString maxConfiguredSecs))
      else .ok ()
    | .atOnce _ => .ok ()

end EngineConfig

end LoadScenario
