import LoadScenario.Engine.Config
import LoadScenario.Runner.Run
import LoadScenario.Scheduler

/-!
# Running a scenario

A run starts the configured users, one task each, at their offsets after the
start, and waits for all of them. With a limit on its length, a watch raises
the stop signal when the limit is reached. Once the stop signal is raised no
further user is started. The summary counts how the users ended; a user that
panicked is counted apart and has no outcome.

Each user's generator is seeded from the run's seed and the user's id, so two
users of a seeded run draw different streams.
-/

namespace LoadScenario

/-- What a run reports. -/
structure Summary where
  scenario : String
  usersPlanned : Nat
  usersStarted : Nat := 0
  completed : Nat := 0
  exited : Nat := 0
  stopped : Nat := 0
  failed : Nat := 0
  panicked : Nat := 0
  stopReason : Option StopReason := none
  elapsedMs : Nat := 0
  /-- The outcomes of the users that did not panic, in the order they started. -/
  outcomes : List Outcome := []

namespace Summary

/-- Counts one user's outcome. -/
def add (s : Summary) (o : Outcome) : Summary :=
  let s := match o.termination with
    | .completed => { s with completed := s.completed + 1 }
    | .exited => { s with exited := s.exited + 1 }
    | .stopped => { s with stopped := s.stopped + 1 }
  let s := if o.isFailed then { s with failed := s.failed + 1 } else s
  { s with outcomes := s.outcomes ++ [o] }

/-- A run passes when no session failed, no user panicked, and no stop injector stopped it. -/
def passed (s : Summary) : Bool :=
  s.failed == 0 && s.panicked == 0 &&
    match s.stopReason with
    | some (.injector _) => false
    | _ => true

/-- The run's length. -/
def elapsed (s : Summary) : Duration := Duration.ofMillis s.elapsedMs

/-- The text report of a run with the given id. -/
def report (s : Summary) (runId : String) : String :=
  let line (k : String) (v : String) : String := k ++ ": " ++ v ++ "\n"
  "=== Volley Run Report ===\n\n" ++
  line "Run" runId ++
  line "Scenario" s.scenario ++
  line "Users Planned" (toString s.usersPlanned) ++
  line "Users Started" (toString s.usersStarted) ++
  line "Completed" (toString s.completed) ++
  line "Exited" (toString s.exited) ++
  line "Stopped" (toString s.stopped) ++
  line "Failed Sessions" (toString s.failed) ++
  (if 0 < s.panicked then line "Panicked Users" (toString s.panicked) else "") ++
  "Elapsed: " ++ toString s.elapsedMs ++ "ms\n" ++
  (match s.stopReason with
    | some r => "\nRun stopped early: " ++ r.display ++ "\n"
    | none => "") ++
  "\n=== Result: " ++ (if s.passed then "PASS" else "FAIL") ++ " ===\n"

end Summary

namespace Engine

open Prog (clock stopped emit)

/-- The watch of the run's deadline: raises the stop signal when the deadline
comes first, and says so if no one raised it before. -/
def watchdog (deadline : Nat) : Prog Unit := do
  if ← Prog.waitUntil deadline then
    if ← Prog.raise .maxDuration then emit (.info "maximum run duration reached")

/-- Starts users from `index` on, `n` of them, each at its offset, unless the
stop signal is raised first; answers how many users were started in all. -/
def inject (inj : Injection) (started : Nat) : Nat → Nat → Prog Nat
  | index, 0 => pure index
  | index, n + 1 =>
    match inj.offset index with
    | .error e => .panic e.message
    | .ok offset => do
      let startAt := started + offset.nanos
      if (← clock) < startAt then
        let _ ← Prog.waitUntil startAt
      if ← stopped then
        emit (.info "stop signal raised, injection halted"
          [("started", Value.ofNat index), ("remaining", Value.ofNat (inj.users - index))])
        pure index
      else
        Prog.start (.user index)
        inject inj started (index + 1) n

/-- Counts the users' outcomes in the order they started, logging each user that panicked. -/
def tally (s : Summary) : Nat → List (Option Outcome) → Prog Summary
  | _, [] => pure s
  | i, some o :: rest => tally (s.add o) (i + 1) rest
  | i, none :: rest => do
    emit (.error "virtual user panicked" [("user_id", Value.ofNat i)])
    tally { s with panicked := s.panicked + 1 } (i + 1) rest

/-- The main program of a run. -/
def program (cfg : EngineConfig) (scenario : String) : Prog Summary := do
  let users := cfg.injection.users
  let started ← clock
  emit (.info "starting run" [("scenario", .string scenario), ("users", Value.ofNat users)])
  match cfg.maxDuration with
  | some limit =>
    match Clock.after? started limit with
    | some deadline => Prog.start (.watchdog deadline)
    | none =>
      emit (.warn "maximum run duration out of range, no deadline armed"
        [("limit", .string limit.debugText)])
  | none => pure ()
  let count ← inject cfg.injection started 0 users
  let joined ← Prog.joinAll
  let s ← tally { scenario, usersPlanned := users, usersStarted := count } 0 joined
  let reason ← Prog.stopReason
  let now ← clock
  let s := { s with stopReason := reason,
                    elapsedMs := min ((now - started) / Clock.nanosPerMilli) (Nat.pow 2 64 - 1) }
  emit (.info "run finished"
    [("completed", Value.ofNat s.completed), ("exited", Value.ofNat s.exited),
     ("stopped", Value.ofNat s.stopped), ("failed", Value.ofNat s.failed),
     ("panicked", Value.ofNat s.panicked), ("elapsed_ms", Value.ofNat s.elapsedMs)])
  pure s

/-- The seed of a user's generator: the run's seed mixed with the user's id. -/
def userSeed (seed : UInt64) (userId : Nat) : UInt64 :=
  seed ^^^ (UInt64.ofNat userId * 0x9E3779B97F4A7C15)

/-- The generator of a user; without a seed any generator will do. -/
def userRng (seed : Option UInt64) (userId : Nat) : Random.ChaCha :=
  Random.ChaCha.ofSeed ((seed.map (userSeed · userId)).getD 0)

/-- A task that does nothing but wait until `t` and raise the stop signal with
an external reason. -/
def stopAt (t : Nat) (message : String) : Task :=
  { origin := none, rng := Random.ChaCha.ofSeed 0,
    state := .ready (do Prog.sleepUntil t; let _ ← Prog.raise (.external message); pure none) }

/-- The tasks a run starts: users running the scenario from a fresh session,
and the watch of the deadline. -/
def spawner (fuel : Nat) (scenario : Scenario) (seed : Option UInt64) : Spawn → Task
  | .user i =>
    { origin := some i, rng := userRng seed i,
      state := .ready (some <$> Runner.runUser fuel scenario.chain (Session.new scenario.name i)) }
  | .watchdog d =>
    { origin := none, rng := Random.ChaCha.ofSeed 0, state := .ready (watchdog d *> pure none) }

/-- Runs a scenario under a configuration, with `initial` tasks started
before the run and `watch` raising the stop signal if the run gets stuck: the
summary, or how the run failed, and the world it left. -/
def run (fuel : Nat) (cfg : EngineConfig) (scenario : Scenario) (world : World)
    (initial : List Task) (watch : Option StopReason) : RunResult Summary :=
  runMain fuel world (program cfg scenario.name) none (Random.ChaCha.ofSeed 0)
    (spawner fuel scenario cfg.seed) initial watch

/-- Runs one user alone from a session, with `initial` tasks started before it
and `watch` raising the stop signal if the run gets stuck. -/
def runAlone (fuel : Nat) (scenario : Scenario) (session : Session) (seed : Option UInt64)
    (world : World) (initial : List Task) (watch : Option StopReason) : RunResult Outcome :=
  runMain fuel world (Runner.runUser fuel scenario.chain session) (some session.userId)
    (userRng seed session.userId) (spawner fuel scenario seed) initial watch

end Engine

end LoadScenario
