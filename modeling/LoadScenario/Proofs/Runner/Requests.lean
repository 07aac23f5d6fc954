import LoadScenario.Proofs.Runner.Steps
import LoadScenario.Proofs.Prog.Traces

/-!
# What each small step of the runner asks of the run

`Steps` says what each small step of the runner can end with; this module says,
for the steps the loops and retry blocks are made of, which requests a run of
the step makes and what it ends with: leaving a block reads the clock once,
failing logs one warning, a loop's head check reads the clock only for a
guarded loop past a do-while's first pass.

The steps are first written as the requests they are (`finish_eq`,
`passOn_eq`, `fail_bind`, ...), all true by definition; their runs then follow
from the laws of each request.
-/

namespace LoadScenario

namespace Prog

variable {β : Type} {tr : List Exchange} {b : β}

@[simp] theorem runs_now {k : Nat → Prog β} :
    Runs (.now k) tr b ↔ ∃ t tr', tr = .now t :: tr' ∧ Runs (k t) tr' b :=
  ⟨fun h => by cases h with | now t h => exact ⟨t, _, rfl, h⟩,
    fun ⟨t, _, h₁, h₂⟩ => h₁ ▸ .now t h₂⟩

@[simp] theorem runs_log {e : Event} {k : Prog β} :
    Runs (.log e k) tr b ↔ ∃ tr', tr = .log e :: tr' ∧ Runs k tr' b :=
  ⟨fun h => by cases h with | log h => exact ⟨_, rfl, h⟩, fun ⟨_, h₁, h₂⟩ => h₁ ▸ .log h₂⟩

@[simp] theorem runs_yield {k : Prog β} :
    Runs (.yield k) tr b ↔ ∃ tr', tr = .yield :: tr' ∧ Runs k tr' b :=
  ⟨fun h => by cases h with | yield h => exact ⟨_, rfl, h⟩, fun ⟨_, h₁, h₂⟩ => h₁ ▸ .yield h₂⟩

@[simp] theorem runs_pure_ctor {a a' : β} : Runs (Prog.pure a) tr a' ↔ tr = [] ∧ a' = a :=
  runs_pure

/-- The result of a run is one the program can end with. -/
theorem Runs.yields {p : Prog β} (h : Runs p tr b) : Yields p b := by
  induction h with
  | pure a => exact .pure a
  | now t _ ih => exact .now t ih
  | sleep _ ih => exact .sleep ih
  | sleepOrStop b _ ih => exact .sleepOrStop b ih
  | yield _ ih => exact .yield ih
  | signal r _ ih => exact .signal r ih
  | stop b _ ih => exact .stop b ih
  | draw x _ ih => exact .draw x ih
  | feed r _ ih => exact .feed r ih
  | bump n _ ih => exact .bump n ih
  | note _ ih => exact .note ih
  | log _ ih => exact .log ih
  | spawn _ ih => exact .spawn ih
  | joinUsers os _ ih => exact .joinUsers os ih

/-- What holds of every result of a program holds of the result of each of its runs. -/
theorem All.of_runs {P : β → Prop} {p : Prog β} (hp : All P p) (h : Runs p tr b) : P b :=
  hp.of_yields h.yields

/-- A program that reads the clock once and ends. -/
theorem runs_now_pure {f : Nat → β} :
    Runs (.now fun t => .pure (f t)) tr b ↔ ∃ t, tr = [.now t] ∧ b = f t := by
  constructor
  · intro h
    obtain ⟨t, tr', rfl, h'⟩ := runs_now.mp h
    obtain ⟨rfl, rfl⟩ := runs_pure_ctor.mp h'
    exact ⟨t, rfl, rfl⟩
  · rintro ⟨t, rfl, rfl⟩
    exact .now t (.pure _)

/-- A program that logs one event and ends. -/
theorem runs_log_pure {e : Event} {a : β} :
    Runs (.log e (.pure a)) tr b ↔ tr = [.log e] ∧ b = a := by
  constructor
  · intro h
    obtain ⟨tr', rfl, h'⟩ := runs_log.mp h
    obtain ⟨rfl, rfl⟩ := runs_pure_ctor.mp h'
    exact ⟨rfl, rfl⟩
  · rintro ⟨rfl, rfl⟩
    exact .log (.pure _)

end Prog

open Prog

namespace Runner

variable {β : Type} {tr : List Exchange} {b : β} {s : Session} {counter : String}

/-! ## The steps as requests -/

theorem finish_eq : finish s counter = .now fun t => .pure (.next (s.leave counter t)) := rfl

theorem passOn_eq (flow : Flow) :
    passOn flow counter = .now fun t => .pure (flow.mapSession (·.leave counter t)) := rfl

theorem leaveNow_bind (f : Session → Prog β) :
    leaveNow s counter >>= f = .now fun t => f (s.leave counter t) := rfl

theorem fail_bind (action error : String) (f : Session → Prog β) :
    fail s action error >>= f =
      .log (.warn "session marked as failed" [("action", .string action), ("error", .string error)])
        (f s.markFailed) := rfl

theorem pass_bind (f : Unit → Prog β) : pass >>= f = .yield (f ()) := rfl

/-! ## Runs of the steps -/

/-- Leaving a block at its end reads the clock once. -/
theorem runs_finish {flow : Flow} :
    Runs (finish s counter) tr flow ↔ ∃ t, tr = [.now t] ∧ flow = .next (s.leave counter t) :=
  runs_now_pure

/-- Passing a flow on out of a block reads the clock once. -/
theorem runs_passOn {flow flow' : Flow} :
    Runs (passOn flow counter) tr flow' ↔
      ∃ t, tr = [.now t] ∧ flow' = flow.mapSession (·.leave counter t) :=
  runs_now_pure

/-- Failing logs one warning and marks the session failed. -/
theorem runs_fail {action error : String} {s' : Session} :
    Runs (fail s action error) tr s' ↔
      tr = [.log (.warn "session marked as failed"
        [("action", .string action), ("error", .string error)])] ∧ s' = s.markFailed :=
  runs_log_pure

/-- A failed step logs one warning, marks the session failed and goes on. -/
theorem runs_failNext {action error : String} {flow : Flow} :
    Runs (failNext s action error) tr flow ↔
      tr = [.log (.warn "session marked as failed"
        [("action", .string action), ("error", .string error)])] ∧ flow = .next s.markFailed :=
  runs_log_pure

/-! ## The head check of a loop -/

/-- A counted loop's head check asks nothing: it compares the iteration with the count. -/
theorem runs_proceed_times {n : Nat} {g : LoopGuard} {started i : Nat}
    {r : Except EvalError Bool} :
    Runs (proceed (.times n) g started s i) tr r ↔ tr = [] ∧ r = .ok (decide (i < n)) :=
  runs_pure

/-- A foreach loop's head check asks nothing: it compares the iteration with the
number of values. -/
theorem runs_proceed_each {vs : List Value} {g : LoopGuard} {started i : Nat}
    {r : Except EvalError Bool} :
    Runs (proceed (.each vs) g started s i) tr r ↔ tr = [] ∧ r = .ok (decide (i < vs.length)) :=
  runs_pure

/-- A do-while loop's first pass is unconditional; every later head check reads
the clock and checks the guard. -/
theorem runs_proceed_doWhile {c : Source Bool} {l : Option (Source Duration)} {started i : Nat}
    {r : Except EvalError Bool} :
    Runs (proceed .guarded (.doWhile c l) started s i) tr r ↔
      (i = 0 ∧ tr = [] ∧ r = .ok true) ∨
        (i ≠ 0 ∧ ∃ t, tr = [.now t] ∧ r = (LoopGuard.doWhile c l).holds started t s true) := by
  by_cases hi : i = 0
  · have h : proceed .guarded (.doWhile c l) started s i = .pure (.ok true) := by
      simp only [proceed, hi, if_true]; rfl
    rw [h, runs_pure_ctor]
    simp [hi]
  · have h : proceed .guarded (.doWhile c l) started s i =
        .now fun t => .pure ((LoopGuard.doWhile c l).holds started t s true) := by
      simp only [proceed, hi, if_false]; rfl
    rw [h, runs_now_pure]
    simp [hi]

/-- Any other guarded loop reads the clock at every head check and checks its guard. -/
theorem runs_proceed_guarded {g : LoopGuard} (hg : ∀ c l, g ≠ .doWhile c l) {started i : Nat}
    {r : Except EvalError Bool} :
    Runs (proceed .guarded g started s i) tr r ↔
      ∃ t, tr = [.now t] ∧ r = g.holds started t s true := by
  have h : proceed .guarded g started s i = .now fun t => .pure (g.holds started t s true) := by
    cases g with
    | doWhile c l => exact absurd rfl (hg c l)
    | times n | asLongAs c l | foreach vs e | forever => rfl
  rw [h, runs_now_pure]

end Runner

end LoadScenario
