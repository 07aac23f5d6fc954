import LoadScenario.Cli.Args
import LoadScenario.Cli.Demo
import LoadScenario.Cli.LogFilter
import LoadScenario.Engine.ConfigFile
import LoadScenario.Engine.Run
import LoadScenario.Json.Write

/-!
# What the program does with a command line

A command line that cannot be read fails with its usage error (exit code 2);
help and the version are shown (exit code 0). Otherwise the log filter's
skipped directives are warned about, and:

* with no subcommand, the program says there is nothing to do;
* `run` builds its configuration: from the `--config` file (read, decoded and
  checked) or starting `10` users at once; `--users` replaces the user count,
  `--ramp-secs` makes the injection a ramp over that many seconds (otherwise
  the kind of injection is kept), `--seed` and `--max-duration-secs` set their
  fields, and the result is checked. It then runs the demo scenario and prints
  the summary, as a report or as JSON with `--json`; the exit code is `0` when
  the run passed and `1` otherwise.

A run can be interrupted at a given time after its start, which stops it for
the external reason `interrupted`.

A failure after the command line was read is reported as `Error: ` and its
message, followed by the messages of its causes (`Caused by:`), numbered when
there are several, with exit code 1.
-/

namespace LoadScenario.Cli

/-- What the program printed and how it ended. -/
structure Exit where
  code : Nat
  stdout : String := ""
  stderr : String := ""
  deriving DecidableEq, Repr

/-- A text with every line after the first indented by `indent`. -/
def indentLines (indent : String) (text : String) : String :=
  ("\n" ++ indent).intercalate (text.splitOn "\n")

/-- A number right-aligned in five columns. -/
def padNumber (n : Nat) : String :=
  let s := toString n
  String.ofList (List.replicate (5 - s.length) ' ') ++ s

/-- The report of a failure with its causes, outermost first. -/
def errorReport (message : String) (causes : List String) : String :=
  "Error: " ++ message ++
  (match causes with
    | [] => ""
    | [c] => "\n\nCaused by:\n    " ++ indentLines "    " c
    | cs => "\n\nCaused by:" ++ String.join (cs.zipIdx.map fun (c, i) =>
        "\n" ++ padNumber i ++ ": " ++ indentLines "       " c)) ++
  "\n"

/-- The causes of a configuration error: its own message, then the message of
what it wraps (the reading or decoding failure), if anything. -/
def configCauses (e : ConfigError) : List String :=
  match e with
  | .io m | .parse m => [e.message, m]
  | .invalid _ => [e.message]

/-- The configuration of a run: from a file, read by `read`, or `10` users at
once, with the request's overrides applied and checked; or the report of why
there is none. -/
def configure (req : RunRequest) (read : String → Except String String) :
    Except String EngineConfig := do
  let base : EngineConfig ← match req.config with
    | some path =>
      (EngineConfig.load (read path)).mapError fun e => errorReport ("loading " ++ path) (configCauses e)
    | none => pure { injection := .atOnce 10 }
  let users := req.users.getD base.injection.users
  let injection := match req.rampSecs, base.injection with
    | some overSecs, _ => .ramp users overSecs
    | none, .ramp _ overSecs => .ramp users overSecs
    | none, .atOnce _ => .atOnce users
  let cfg : EngineConfig :=
    { injection,
      seed := (req.seed.map UInt64.ofNat).or base.seed,
      maxDurationSecs := req.maxDurationSecs.or base.maxDurationSecs }
  cfg.validate.mapError fun e => errorReport e.message []
  pure cfg

/-- A stop reason as the JSON summary writes it: its kind and, if it has one, its message. -/
def stopReasonJson : Option StopReason → Value
  | none => .null
  | some (.injector m) => Value.record [("kind", .string "injector"), ("message", .string m)]
  | some .maxDuration => Value.record [("kind", .string "max_duration")]
  | some (.external m) => Value.record [("kind", .string "external"), ("message", .string m)]

/-- The JSON summary of a run. -/
def summaryJson (s : Summary) (runId : String) : String :=
  renderPrettyRecord
    [("run_id", .string runId), ("scenario", .string s.scenario),
     ("users_planned", Value.ofNat s.usersPlanned), ("users_started", Value.ofNat s.usersStarted),
     ("completed", Value.ofNat s.completed), ("exited", Value.ofNat s.exited),
     ("stopped", Value.ofNat s.stopped), ("failed", Value.ofNat s.failed),
     ("panicked", Value.ofNat s.panicked), ("stop_reason", stopReasonJson s.stopReason),
     ("elapsed_ms", Value.ofNat s.elapsedMs)]

/-- The step budget of a run. -/
def runBudget : Nat := 100000000

/-- Runs the demo scenario under a configuration, interrupted `interruptAt`
milliseconds after the start if given: the exit code and the printed summary. -/
def runDemo (cfg : EngineConfig) (json : Bool) (interruptAt : Option Nat) (runId : String) : Exit :=
  match demoScenario, demoFeeder with
  | .error e, _ => { code := 1, stderr := errorReport e.message [] }
  | _, .error e => { code := 1, stderr := errorReport e.message [] }
  | .ok scenario, .ok feeder =>
    let world : World := { sources := [(demoFeederName, .feeder feeder)] }
    let interrupts := match interruptAt with
      | some ms => [Engine.stopAt (ms * Clock.nanosPerMilli) "interrupted"]
      | none => []
    match (Engine.run runBudget cfg scenario world interrupts none).ending with
    | .finished s =>
      { code := if s.passed then 0 else 1,
        stdout := (if json then summaryJson s runId else s.report runId) ++ "\n" }
    | .panicked m => { code := 101, stderr := m ++ "\n" }
    | .exhausted => { code := 1, stderr := errorReport "run did not finish" [] }
    | .deadlocked => { code := 1, stderr := errorReport "run can never go on" [] }

/-- What the program does with the words of its command line, reading files
with `read`, with the run interrupted `interruptAt` milliseconds after its
start if given, and `runId` naming the run. -/
def execute (words : List String) (read : String → Except String String)
    (interruptAt : Option Nat) (runId : String) : Exit :=
  match readCommandLine words with
  | .error (.show text) => { code := 0, stdout := text }
  | .error (.misuse c e) => { code := 2, stderr := e.render c.hasHelpFlag }
  | .ok invocation =>
    let logs := match invocation with
      | .idle l | .run l _ => l
    let warnings := (logs.level.map filterWarnings).getD ""
    match invocation with
    | .idle _ =>
      { code := 0, stdout := "nothing to do, try \x60volley run --help\x60\n", stderr := warnings }
    | .run _ req =>
      match configure req read with
      | .error report => { code := 1, stderr := warnings ++ report }
      | .ok cfg =>
        let e := runDemo cfg req.json interruptAt runId
        { e with stderr := warnings ++ e.stderr }

/-- The path of the configuration file a command line names, if it asks for a run with one. -/
def configPath (words : List String) : Option String :=
  match readCommandLine words with
  | .ok (.run _ req) => req.config
  | _ => none

end LoadScenario.Cli
