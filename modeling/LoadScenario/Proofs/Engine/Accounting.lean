import Mathlib.Data.List.ReduceOption
import LoadScenario.Proofs.Engine.Injection

/-!
# What a run starts and what its summary counts

The main program of a run reads the clock, arms the watch of its deadline,
injects the users, waits for them, counts their results and reads the stop
signal and the clock once more for the summary. `Engine.runs_program` takes a
run of it apart into these pieces; each piece has its own lemma:
`Engine.injects_of_runs` for the injection, `Engine.runs_tally` for the
counting, `Engine.runs_watchdog` for the watch.

The counting keeps an invariant, `Summary.Tallied`: every outcome is counted
once by how its user ended, and once more if its session failed. With one
result per started user from the join, the summary then counts each started
user exactly once (`Engine.runs_program_accounts`).
-/

namespace LoadScenario

open Prog

/-! ## The counters of a summary -/

namespace Summary

variable {s : Summary} {o : Outcome}

/-- A summary's counters agree with its outcomes: each outcome is counted once
by how its user ended, and once more if its session failed. -/
def Tallied (s : Summary) : Prop :=
  s.completed + s.exited + s.stopped = s.outcomes.length ∧
    s.failed = (s.outcomes.filter (·.isFailed)).length

@[simp] theorem add_outcomes : (s.add o).outcomes = s.outcomes ++ [o] := by
  unfold add; split <;> split <;> rfl

@[simp] theorem add_panicked : (s.add o).panicked = s.panicked := by
  unfold add; split <;> split <;> rfl

@[simp] theorem add_usersPlanned : (s.add o).usersPlanned = s.usersPlanned := by
  unfold add; split <;> split <;> rfl

@[simp] theorem add_usersStarted : (s.add o).usersStarted = s.usersStarted := by
  unfold add; split <;> split <;> rfl

theorem add_failed : (s.add o).failed = s.failed + if o.isFailed then 1 else 0 := by
  unfold add; split <;> split <;> simp_all

/-- Counting an outcome adds one to exactly one of the three ways a user ends. -/
theorem add_ended :
    (s.add o).completed + (s.add o).exited + (s.add o).stopped =
      s.completed + s.exited + s.stopped + 1 := by
  unfold add; split <;> split <;> simp <;> omega

/-- Counting one more outcome keeps the counters in agreement with the outcomes. -/
theorem Tallied.add (h : s.Tallied) (o : Outcome) : (s.add o).Tallied := by
  obtain ⟨hended, hfailed⟩ := h
  constructor
  · rw [add_ended, add_outcomes, List.length_append, hended]
    rfl
  · rw [add_failed, add_outcomes, List.filter_append, List.length_append, hfailed]
    cases hf : o.isFailed <;> simp [hf]

/-- A run passes exactly when no session failed, no user panicked and no stop
injector stopped it. -/
theorem passed_iff :
    s.passed = true ↔ s.failed = 0 ∧ s.panicked = 0 ∧ ∀ m, s.stopReason ≠ some (.injector m) := by
  unfold passed
  split <;> simp_all

end Summary

namespace Engine

/-! ## Counting the users' results and watching the deadline -/

/-- Counting the users' results: the outcomes of those that did not panic are
appended in order, each one that panicked is counted once, the counters keep
agreeing with the outcomes, and no user is started. -/
theorem runs_tally {os : List (Option Outcome)} :
    ∀ {s : Summary} {i : Nat} {tr : List Exchange} {s' : Summary}, Runs (tally s i os) tr s' →
      s'.outcomes = s.outcomes ++ os.reduceOption ∧
      s'.panicked = s.panicked + (os.filter Option.isNone).length ∧
      (s.Tallied → s'.Tallied) ∧
      s'.usersPlanned = s.usersPlanned ∧ s'.usersStarted = s.usersStarted ∧
      startedUsers tr = [] := by
  induction os with
  | nil =>
    intro s i tr s' h
    obtain ⟨rfl, rfl⟩ := runs_pure.mp h
    simp
  | cons r os ih =>
    intro s i tr s' h
    cases r with
    | some o =>
      -- an outcome is added to the summary, with no request
      obtain ⟨h₁, h₂, h₃, h₄, h₅, h₆⟩ := ih h
      exact ⟨by simp [h₁, List.reduceOption_cons_of_some], by simp [h₂], fun ht => h₃ (ht.add o),
        by simp [h₄], by simp [h₅], h₆⟩
    | none =>
      -- a panicked user is logged and counted apart
      obtain ⟨tr', rfl, h'⟩ := runs_emit_bind.mp h
      obtain ⟨h₁, h₂, h₃, h₄, h₅, h₆⟩ := ih h'
      exact ⟨by simp [h₁, List.reduceOption_cons_of_none], by simp [h₂]; omega,
        fun ⟨he, hf⟩ => h₃ ⟨he, hf⟩, h₄, h₅, by simp [h₆, Exchange.startedUser?]⟩

/-- The watch of a deadline either finds the signal raised before the deadline
and ends, or reaches the deadline and raises the signal for the run's length,
saying so when its raise was the first. -/
theorem runs_watchdog {d : Nat} {tr : List Exchange} {u : Unit} (h : Runs (watchdog d) tr u) :
    tr = [.wait d false] ∨
      ∃ first, tr = .wait d true :: .stop .maxDuration first ::
        (if first then [.log (.info "maximum run duration reached")] else []) := by
  obtain ⟨c, tr₁, rfl, h₁⟩ := runs_waitUntil_bind.mp h
  cases c with
  | false =>
    obtain ⟨rfl, -⟩ := runs_pure.mp h₁
    exact .inl rfl
  | true =>
    obtain ⟨first, tr₂, rfl, h₂⟩ := runs_raise_bind.mp h₁
    cases first with
    | false =>
      obtain ⟨rfl, -⟩ := runs_pure.mp h₂
      exact .inr ⟨false, rfl⟩
    | true =>
      obtain ⟨tr₃, rfl, h₃⟩ := runs_emit_bind.mp h₂
      obtain ⟨rfl, -⟩ := runs_pure.mp h₃
      exact .inr ⟨true, rfl⟩

/-! ## A whole run -/

/-- The requests by which a run arms the watch of its deadline: it starts the
watch when the deadline is in the clock's range, warns when it is not, and
does nothing without a limit. -/
inductive Arms (started : Nat) : Option Duration → List Exchange → Prop
  | watch {limit : Duration} {d : Nat} (h : Clock.after? started limit = some d) :
      Arms started (some limit) [.spawn (.watchdog d)]
  | outOfRange {limit : Duration} (e : Event) (h : Clock.after? started limit = none) :
      Arms started (some limit) [.log e]
  | unlimited : Arms started none []

/-- Arming the watch starts no user. -/
theorem Arms.startedUsers_eq {started : Nat} {limit : Option Duration} {trW : List Exchange}
    (h : Arms started limit trW) : startedUsers trW = [] := by
  cases h <;> rfl

section Program

variable {cfg : EngineConfig} {scenario : String} {tr : List Exchange} {s : Summary}

/-- Every run of the main program: the start time read and logged, the watch
armed, the users injected, their results joined and counted, and the stop
signal and the clock read for the summary. -/
theorem runs_program (h : Runs (program cfg scenario) tr s) :
    ∃ started eStart trW trInj count os trT s₀ reason now eEnd,
      tr = .now started :: .log eStart ::
        (trW ++ (trInj ++ .join os :: (trT ++ [.signal reason, .now now, .log eEnd]))) ∧
      Arms started cfg.maxDuration trW ∧
      Runs (inject cfg.injection started 0 cfg.injection.users) trInj count ∧
      Runs (tally { scenario, usersPlanned := cfg.injection.users, usersStarted := count } 0 os)
        trT s₀ ∧
      s = { s₀ with stopReason := reason,
                    elapsedMs := min ((now - started) / Clock.nanosPerMilli) (Nat.pow 2 64 - 1) } := by
  rw [program] at h
  obtain ⟨started, tr₁, rfl, h₁⟩ := runs_clock_bind.mp h
  obtain ⟨tr₂, rfl, h₂⟩ := runs_emit_bind.mp h₁
  -- the rest of the program is the join point that each way of arming ends in
  extract_lets J at h₂
  have harm : ∃ trW tr', tr₂ = trW ++ tr' ∧ Arms started cfg.maxDuration trW ∧ Runs (J ()) tr' s := by
    split at h₂
    · next limit hlim =>
      rw [hlim]
      split at h₂
      · next d hd =>
        obtain ⟨tr', rfl, h₃⟩ := runs_start_bind.mp h₂
        exact ⟨_, tr', rfl, .watch hd, h₃⟩
      · next hd =>
        obtain ⟨tr', rfl, h₃⟩ := runs_emit_bind.mp h₂
        exact ⟨_, tr', rfl, .outOfRange _ hd, h₃⟩
    · next hlim =>
      rw [hlim]
      exact ⟨[], tr₂, rfl, .unlimited, h₂⟩
  obtain ⟨trW, tr₃, rfl, hW, h₃⟩ := harm
  clear h h₁ h₂
  simp only [J] at h₃
  obtain ⟨trInj, count, tr₄, rfl, hInj, h₄⟩ := Runs.of_bind h₃
  obtain ⟨os, tr₅, rfl, h₅⟩ := runs_joinAll_bind.mp h₄
  obtain ⟨trT, s₀, tr₆, rfl, hT, h₆⟩ := Runs.of_bind h₅
  obtain ⟨reason, tr₇, rfl, h₇⟩ := runs_stopReason_bind.mp h₆
  obtain ⟨now, tr₈, rfl, h₈⟩ := runs_clock_bind.mp h₇
  obtain ⟨tr₉, rfl, h₉⟩ := runs_emit_bind.mp h₈
  obtain ⟨rfl, rfl⟩ := runs_pure.mp h₉
  exact ⟨started, _, trW, trInj, count, os, trT, s₀, reason, now, _, rfl, hW, hInj, hT, rfl⟩

/-- A run starts users `0, …, k-1` in order, `k` being the count its summary
reports: the injection starts them, and nothing else starts a user. -/
theorem runs_program_startedUsers (h : Runs (program cfg scenario) tr s) :
    startedUsers tr = List.range s.usersStarted := by
  obtain ⟨started, eStart, trW, trInj, count, os, trT, s₀, reason, now, eEnd, rfl, hW, hInj, hT, rfl⟩ :=
    runs_program h
  obtain ⟨-, -, -, -, hcount, hT'⟩ := runs_tally hT
  obtain ⟨hus, -, -⟩ := (injects_of_runs _ hInj).startedUsers_eq
  simp [hus, hW.startedUsers_eq, hT', hcount, List.range_eq_range', Exchange.startedUser?]

/-- When and under what reading of the signal a run starts its users: each
right after a read that finds the signal unset once its start time is
reached, by a clock reading at or past it or a wait for it that ended because
its time came; all of them unless the injection found the signal raised,
after which no user is started. With a limit whose deadline the clock can
represent, the watch of the deadline is started too. -/
theorem runs_program_starts (h : Runs (program cfg scenario) tr s) (hstop : StaysStopped tr) :
    ∃ started, tr.head? = some (.now started) ∧
      (∀ i < s.usersStarted, ∃ o, cfg.injection.offset i = .ok o ∧
        ((∃ t, started + o.nanos ≤ t ∧ [.now t, .signal none, .spawn (.user i)] <:+: tr) ∨
          ∃ t, [.now t, .wait (started + o.nanos) true, .signal none, .spawn (.user i)] <:+: tr)) ∧
      (s.usersStarted = cfg.injection.users ∨
        ∃ pre r e post, tr = pre ++ .signal (some r) :: .log e :: post ∧ startedUsers post = []) ∧
      (∀ limit, cfg.maxDuration = some limit → Clock.fits (started + limit.nanos) →
        .spawn (.watchdog (started + limit.nanos)) ∈ tr) := by
  obtain ⟨started, eStart, trW, trInj, count, os, trT, s₀, reason, now, eEnd, rfl, hW, hInj, hT, rfl⟩ :=
    runs_program h
  have hI := injects_of_runs _ hInj
  obtain ⟨-, -, -, -, hcount, hT'⟩ := runs_tally hT
  have hinj : trInj <:+: .now started :: .log eStart ::
      (trW ++ (trInj ++ .join os :: (trT ++ [.signal reason, .now now, .log eEnd]))) :=
    ⟨.now started :: .log eStart :: trW, .join os :: (trT ++ [.signal reason, .now now, .log eEnd]),
      by simp⟩
  refine ⟨started, rfl, ?_, ?_, ?_⟩
  · intro i hi
    obtain ⟨o, pre, ho, hpre, hin⟩ := hI.starts_after (Nat.zero_le i) (by simpa [hcount] using hi)
    have hin' := hin.trans hinj
    refine ⟨o, ho, ?_⟩
    rcases hpre.time_came hstop hin' with ⟨t, hle, rfl⟩ | ⟨t, rfl⟩
    · exact .inl ⟨t, hle, hin'⟩
    · exact .inr ⟨t, hin'⟩
  · rcases hI.complete_or_halted with hk | ⟨pre, r, e, rfl⟩
    · exact .inl (by simpa [hcount] using hk)
    · refine .inr ⟨.now started :: .log eStart :: (trW ++ pre), r, e,
        .join os :: (trT ++ [.signal reason, .now now, .log eEnd]), by simp, ?_⟩
      simp [hT', Exchange.startedUser?]
  · intro limit hlim hfits
    rw [hlim] at hW
    cases hW with
    | watch hd =>
      simp only [Clock.after?, hfits, if_true, Option.some.injEq] at hd
      simp [hd]
    | outOfRange e hd => simp [Clock.after?, hfits] at hd

/-- What a run's summary counts, once the join answers one result per started
user: the users planned and started, each started user once by how it ended or
as panicked, an outcome for each user that did not panic, the failed sessions
among them, and the stop reason the end of the run read from the signal. -/
theorem runs_program_accounts (h : Runs (program cfg scenario) tr s)
    (hjoin : ∀ os, .join os ∈ tr → os.length = (startedUsers tr).length) :
    s.usersPlanned = cfg.injection.users ∧
      s.usersStarted = s.completed + s.exited + s.stopped + s.panicked ∧
      s.outcomes.length = s.usersStarted - s.panicked ∧
      s.failed = (s.outcomes.filter (·.isFailed)).length ∧
      ∃ pre now e, tr = pre ++ [.signal s.stopReason, .now now, .log e] := by
  have hrange := runs_program_startedUsers h
  obtain ⟨started, eStart, trW, trInj, count, os, trT, s₀, reason, now, eEnd, rfl, hW, hInj, hT, rfl⟩ :=
    runs_program h
  obtain ⟨hout, hpan, htal, hplan, hcount, -⟩ := runs_tally hT
  obtain ⟨hended, hfailed⟩ := htal ⟨rfl, rfl⟩
  -- the join answers one result per started user
  have hlen : os.length = s₀.usersStarted := by
    rw [hjoin os (by simp), hrange, List.length_range]
  have hsplit : os.length = os.reduceOption.length + (os.filter Option.isNone).length :=
    List.length_eq_reduceOption_length_add_filter_none
  rw [List.nil_append] at hout
  rw [Nat.zero_add] at hpan
  refine ⟨hplan, ?_, ?_, hfailed, ?_⟩
  · show s₀.usersStarted = s₀.completed + s₀.exited + s₀.stopped + s₀.panicked
    rw [hended, hout, hpan, ← hsplit, hlen]
  · show s₀.outcomes.length = s₀.usersStarted - s₀.panicked
    rw [hout, hpan, ← hlen, hsplit, Nat.add_sub_cancel]
  · exact ⟨.now started :: .log eStart :: (trW ++ (trInj ++ .join os :: trT)), now, eEnd, by simp⟩

/-- Every run of a scenario, whatever the answers to its requests, so long as
they keep the stop signal raised once a wait found it so and the join answers
one result per started user, starts users `0, …, k-1` in order, each only once
its start time is reached and only while the signal reads unset; all of them
unless the injection found the signal raised, after which none is started. A
limit whose deadline the clock can represent starts the watch of that
deadline, which raises the signal for the run's length only once the deadline
came. The summary counts every started user once, an outcome for each that
did not panic and the failed sessions among them; its stop reason is the
signal's, read at the end; and the run passes exactly when no session failed,
no user panicked and no stop injector stopped it. -/
theorem run_starts_users_in_order_and_counts_them
    (h : Runs (program cfg scenario) tr s) (hstop : StaysStopped tr)
    (hjoin : ∀ os, .join os ∈ tr → os.length = (startedUsers tr).length) :
    ∃ started, tr.head? = some (.now started) ∧
      startedUsers tr = List.range s.usersStarted ∧
      (∀ i < s.usersStarted, ∃ o, cfg.injection.offset i = .ok o ∧
        ((∃ t, started + o.nanos ≤ t ∧ [.now t, .signal none, .spawn (.user i)] <:+: tr) ∨
          ∃ t, [.now t, .wait (started + o.nanos) true, .signal none, .spawn (.user i)] <:+: tr)) ∧
      (s.usersStarted = cfg.injection.users ∨
        ∃ pre r e post, tr = pre ++ .signal (some r) :: .log e :: post ∧ startedUsers post = []) ∧
      (∀ limit, cfg.maxDuration = some limit → Clock.fits (started + limit.nanos) →
        .spawn (.watchdog (started + limit.nanos)) ∈ tr) ∧
      (∀ d trw u, Runs (watchdog d) trw u → trw = [.wait d false] ∨
        ∃ first, trw = .wait d true :: .stop .maxDuration first ::
          (if first then [.log (.info "maximum run duration reached")] else [])) ∧
      s.usersPlanned = cfg.injection.users ∧
      s.usersStarted = s.completed + s.exited + s.stopped + s.panicked ∧
      s.outcomes.length = s.usersStarted - s.panicked ∧
      s.failed = (s.outcomes.filter (·.isFailed)).length ∧
      (∃ pre now e, tr = pre ++ [.signal s.stopReason, .now now, .log e]) ∧
      (s.passed = true ↔ s.failed = 0 ∧ s.panicked = 0 ∧ ∀ m, s.stopReason ≠ some (.injector m)) := by
  obtain ⟨started, hhead, hafter, hdone, hwatch⟩ := runs_program_starts h hstop
  obtain ⟨hplan, hcount, hout, hfail, hlast⟩ := runs_program_accounts h hjoin
  exact ⟨started, hhead, runs_program_startedUsers h, hafter, hdone, hwatch, fun _ _ _ hw => runs_watchdog hw,
    hplan, hcount, hout, hfail, hlast, Summary.passed_iff⟩

end Program

/-- A run of three users started at once, in which the stop signal is found
raised before the third: the injection halts there, and the two users started
are started in order and counted once each. -/
theorem halted_run_counts_started_users :
    ∃ tr s, Runs (program { injection := .atOnce 3 } "checkout") tr s ∧ StaysStopped tr ∧
      (∀ os, .join os ∈ tr → os.length = (startedUsers tr).length) ∧
      startedUsers tr = List.range s.usersStarted ∧ s.usersStarted = 2 ∧
      s.usersStarted = s.completed + s.exited + s.stopped + s.panicked ∧
      ∃ pre r e post, tr = pre ++ .signal (some r) :: .log e :: post ∧ startedUsers post = [] := by
  -- the clock reads 0 throughout; the signal is raised once two users are started
  obtain ⟨tr, s, hrun, htr⟩ : ∃ tr s, Runs (program { injection := .atOnce 3 } "checkout") tr s ∧
      tr = _ :=
    ⟨_, _, .now 0 (.log (.now 0 (.signal none (.spawn (.now 0 (.signal none (.spawn
      (.now 0 (.signal (some (.external "stop")) (.log (.joinUsers
        [some ⟨Session.new "checkout" 0, .completed⟩, some ⟨Session.new "checkout" 1, .stopped⟩]
        (.signal (some (.external "stop")) (.now 0 (.log (.pure _))))))))))))))), rfl⟩
  have hstop : StaysStopped tr := by
    intro pre d post hsplit
    -- the run waits for nothing
    have hmem : Exchange.wait d false ∈ tr := by simp [hsplit]
    subst htr
    simp at hmem
  have hjoin : ∀ os, .join os ∈ tr → os.length = (startedUsers tr).length := by
    intro os hos
    subst htr
    simp at hos
    subst hos
    rfl
  obtain ⟨_, _, hrange, _, hdone, _, _, _, hcount, -⟩ :=
    run_starts_users_in_order_and_counts_them hrun hstop hjoin
  have htwo : s.usersStarted = 2 := by
    have hstarted : startedUsers tr = [0, 1] := by subst htr; rfl
    have hlen := congrArg List.length hrange
    rw [hstarted, List.length_range] at hlen
    exact hlen.symm
  refine ⟨tr, s, hrun, hstop, hjoin, hrange, htwo, hcount, ?_⟩
  exact hdone.resolve_left (by rw [htwo]; decide)

end Engine

end LoadScenario
