import LoadScenario.Proofs.Runner.Attempts
import LoadScenario.Effects

/-!
# What a retry block does

A retry block resolves how many attempts it allows; none, or a number that
cannot be resolved, fails the session and nothing runs. Then it enters its
counter: a counter already in use fails the session and nothing runs.
Then it makes its attempts (`Runner.Attempts`). `Runner.TryRun` puts these
together, and every run of `runTry` is one it describes (`tryRun_of_runs`).

`retry_attempts_counted` is the law of a retry block whose body's effects keep
the counters: at most the allowed number of attempts, each starting active with
the counter's attribute at its index and every other attribute as the attempt
before left it; every attempt but the last failed; a success ends the block with
the status from before it, a failure ends it failed once every attempt is made,
an exit aimed at the block ends it with no retry; and the counter is left
finished.

An exit ends the block with the session as the attempt left it, and every
attempt starts with its failure cleared, so a block entered failed and left
through an exit comes out active, not with the status from before it
(`retry_exit_keeps_attempt_status`).
-/

namespace LoadScenario

open Prog Session

namespace Runner

section TryRun

variable (attempts : Source UInt64) (c : String) (body : Chain) (s : Session) (sc : Scope)

/-- The runs of a retry block from session `s` in scope `sc`, with the body
runs they make. -/
inductive TryRun : List BodyRun → Flow → Prop
  /-- The number of attempts cannot be resolved: the session fails. -/
  | unresolved {e : EvalError} (hres : attempts.resolve s = .error e) :
      TryRun [] (.next s.markFailed)
  /-- No attempt is allowed: the session fails. -/
  | noAttempt {m : UInt64} (hres : attempts.resolve s = .ok m) (hm : m.toNat = 0) :
      TryRun [] (.next s.markFailed)
  /-- The counter is in use: the session fails. -/
  | inUse {m : UInt64} (hres : attempts.resolve s = .ok m) (hm : m.toNat ≠ 0)
      (hc : c ∈ s.active) : TryRun [] (.next s.markFailed)
  /-- The counter is entered: the attempts follow, in the block's own frame. -/
  | entered {m : UInt64} {now : Nat} {s₁ : Session} {rs : List BodyRun} {flow : Flow}
      (hres : attempts.resolve s = .ok m) (hm : m.toNat ≠ 0)
      (henter : s.enterCounter c now = .ok s₁)
      (ha : Attempts m.toNat s.status c body (sc.push .retry) s₁ rs flow) : TryRun rs flow

end TryRun

variable {attempts : Source UInt64} {c : String} {body : Chain} {s : Session} {sc : Scope}

/-- Every run of a retry block is one that `TryRun` describes. -/
theorem tryRun_of_runs {n : Nat} {tr : List Exchange} {flow : Flow}
    (h : Runs (runTry n attempts c body s sc) tr flow) :
    ∃ rs, TryRun attempts c body s sc rs flow := by
  cases n with
  | zero => cases h
  | succ n =>
    rw [runTry] at h
    cases hres : attempts.resolve s with
    | error e =>
      simp only [hres] at h
      obtain ⟨rfl, rfl⟩ := runs_failNext.mp h
      exact ⟨[], .unresolved hres⟩
    | ok m =>
      simp only [hres] at h
      by_cases hm : m.toNat = 0
      · simp only [hm, if_true] at h
        obtain ⟨rfl, rfl⟩ := runs_failNext.mp h
        exact ⟨[], .noAttempt hres hm⟩
      · simp only [hm, if_false] at h
        obtain ⟨now, tr₁, rfl, h₁⟩ := runs_clock_bind.mp h
        cases henter : s.enterCounter c now with
        | error e =>
          simp only [henter] at h₁
          obtain ⟨rfl, rfl⟩ := runs_failNext.mp h₁
          have hc : c ∈ s.active := by
            unfold enterCounter at henter
            split at henter
            · exact isCounterActive_iff.mp ‹_›
            · cases henter
          exact ⟨[], .inUse hres hm hc⟩
        | ok s₁ =>
          simp only [henter] at h₁
          obtain ⟨rs, ha⟩ := attempts_of_runs n h₁
          exact ⟨rs, .entered hres hm henter ha⟩

/-- The laws of a retry block entered from session `s`, allowing `max`
attempts, its counter `c` entered at `now`, told by its body runs `rs` and the
flow it ended with. -/
structure RetryLaws (max : Nat) (c : String) (body : Chain) (sc : Scope) (s : Session)
    (now : Nat) (rs : List BodyRun) (flow : Flow) : Prop where
  /-- Each body run is a run of the body inside the block's own frame. -/
  runs : ∀ r ∈ rs, r.Of body (sc.push .retry)
  /-- At least one attempt is made, and at most `max`. -/
  count : 0 < rs.length ∧ rs.length ≤ max
  /-- The `j`-th attempt starts active, with the counter's attribute reading `j`. -/
  start : ∀ j (hj : j < rs.length),
    rs[j].start.status = .active ∧ rs[j].start.get? c = some (Value.ofNat j)
  /-- The first attempt starts with every other attribute as before the block. -/
  first : ∀ (h : 0 < rs.length) x, x ≠ c → rs[0].start.get? x = s.get? x
  /-- Each later attempt starts with every other attribute as the attempt
  before it left the session. -/
  kept : ∀ j (hj : j + 1 < rs.length) x, x ≠ c →
    rs[j + 1].start.get? x = rs[j].flow.session.get? x
  /-- Every attempt but the last failed: its body came to its end failed, or a
  failure interrupt aimed at the block cut it. -/
  retried : ∀ j (hj : j + 1 < rs.length),
    ∃ s', attemptEnd (sc.push .retry) rs[j].flow = .ok (s', false) ∧ s'.isFailed = true
  /-- The last attempt decides how the block ends, with the status from before
  the block restored on a success. -/
  last : ∀ r, rs.getLast? = some r → LastAttempt max s.status c (sc.push .retry) rs.length r flow
  /-- The counter is left finished, and the stack of counters is as before the block. -/
  left : ∃ k, flow.session.LeftAt s.active c now k

/-- A retry block that enters its counter keeps its laws: they are the laws of
its attempts from the head of the first one. -/
theorem RetryLaws.of_entered (hb : ∀ b ∈ body, b.Within Action.KeepsCounters) {max now : Nat}
    {s₁ : Session} {rs : List BodyRun} {flow : Flow} (hmax : max ≠ 0)
    (henter : s.enterCounter c now = .ok s₁)
    (ha : Attempts max s.status c body (sc.push .retry) s₁ rs flow) :
    RetryLaws max c body sc s now rs flow := by
  have hs := AtRound.of_enter henter
  have hpos : 0 < max := Nat.pos_of_ne_zero hmax
  refine ⟨ha.runs, ⟨?_, by simpa using ha.bounded hb hs hpos⟩, fun j hj => ?_,
    fun h x hx => ?_, ha.kept, ha.retried, fun r hr => ?_, ha.leftAt hb hs⟩
  · obtain ⟨r, rs', rfl, -⟩ := ha.head
    exact Nat.succ_pos _
  · obtain ⟨hround, hstart⟩ := ha.starts hb hs j hj
    rw [hstart, get?_markSucceeded, hround.attr, Nat.zero_add]
    exact ⟨rfl, rfl⟩
  · obtain ⟨r, rs', rfl, -, hstart⟩ := ha.head
    simp only [List.getElem_cons_zero]
    rw [hstart, get?_markSucceeded]
    exact get?_enterCounter_of_ne henter hx
  · simpa using ha.last hb hs hpos r hr

end Runner

open Runner

/-- The law of a retry block's attempts, for a body whose effects keep the
counters. A block whose number of attempts cannot be resolved or is 0, or whose
counter is in use, fails the session and runs nothing. Otherwise it makes at
least one attempt and at most the number allowed; each starts active with the
counter's attribute at its index and every other attribute as the attempt
before left it; every attempt but the last failed; a success ends the block
with the status from before it; a failure ends it failed once every attempt is
made, and otherwise only a stop does; an exit aimed at the block ends it after
the attempt with the session as the attempt left it; and the counter is left
finished. -/
theorem retry_attempts_counted {n : Nat} {attempts : Source UInt64} {c : String} {body : Chain}
    {s : Session} {sc : Scope} {tr : List Exchange} {flow : Flow}
    (hb : ∀ b ∈ body, b.Within Action.KeepsCounters)
    (h : Runs (runTry n attempts c body s sc) tr flow) :
    ∃ rs, TryRun attempts c body s sc rs flow ∧
      ((∀ m, attempts.resolve s = .ok m → m.toNat = 0 ∨ c ∈ s.active) →
        rs = [] ∧ flow = .next s.markFailed) ∧
      (∀ m, attempts.resolve s = .ok m → m.toNat ≠ 0 → c ∉ s.active →
        ∃ now, RetryLaws m.toNat c body sc s now rs flow) := by
  obtain ⟨rs, hrun⟩ := tryRun_of_runs h
  refine ⟨rs, hrun, fun hrefused => ?_, fun m hres hm hc => ?_⟩
  · cases hrun with
    | unresolved | noAttempt | inUse => exact ⟨rfl, rfl⟩
    | entered hres hm henter =>
      rcases hrefused _ hres with hm' | hc
      · exact absurd hm' hm
      · exact absurd hc (enterCounter_ok henter).1
  · cases hrun with
    | unresolved hres' => cases hres.symm.trans hres'
    | noAttempt hres' hm' =>
      cases hres.symm.trans hres'
      exact absurd hm' hm
    | inUse _ _ hc' => exact absurd hc' hc
    | entered hres' _ henter ha =>
      cases hres.symm.trans hres'
      exact ⟨_, .of_entered hb hm henter ha⟩

/-- A retry block allowing two attempts of a body that fails the session, run
with the clock at 0: the first attempt fails and is retried, the second fails
too and the block gives up, keeping the laws of its attempts. -/
theorem retry_twice_keeps_retry_laws :
    ∃ tr flow, Runs (runTry 10 (.const 2) "attempt" [.exec (Effect.ofFun "fail" Session.markFailed)]
        (Session.new "user" 0) []) tr flow ∧
      Exchange.log (.debug "try_max retrying" [("attempt", Value.ofNat 1), ("max", Value.ofNat 2)]) ∈ tr ∧
      Exchange.log (.debug "try_max gave up" [("attempts", Value.ofNat 2)]) ∈ tr ∧
      ∃ rs, TryRun (.const 2) "attempt" [.exec (Effect.ofFun "fail" Session.markFailed)]
          (Session.new "user" 0) [] rs flow ∧
        ∃ now, RetryLaws 2 "attempt" [.exec (Effect.ofFun "fail" Session.markFailed)] []
          (Session.new "user" 0) now rs flow := by
  -- each attempt passes its checkpoint at time 0 and fails; the first is retried
  obtain ⟨tr, flow, hrun, htr⟩ : ∃ tr flow, Runs (runTry 10 (.const 2) "attempt"
      [.exec (Effect.ofFun "fail" Session.markFailed)] (Session.new "user" 0) []) tr flow ∧ tr = _ :=
    ⟨_, _, .now 0 (.signal none (.now 0 (.log (.signal none (.signal none (.now 0 (.log
      (.now 0 (.pure _))))))))), rfl⟩
  have hb : ∀ b ∈ [Action.exec (Effect.ofFun "fail" Session.markFailed)],
      b.Within Action.KeepsCounters :=
    Action.Within.singleton (.of_leaf (fun _ => ⟨rfl, rfl⟩) rfl)
  obtain ⟨rs, hl, -, hlaws⟩ := retry_attempts_counted hb hrun
  -- the fourth request logs the retry, the eighth the block giving up
  refine ⟨tr, flow, hrun, by subst htr; exact .tail _ (.tail _ (.tail _ (.head _))), ?_, rs, hl,
    hlaws 2 rfl (by decide) (by decide)⟩
  subst htr
  exact .tail _ (.tail _ (.tail _ (.tail _ (.tail _ (.tail _ (.tail _ (.head _)))))))

/-- A retry block entered failed whose first attempt ends through an exit comes
out with the attempt's status, active, not the status from before the block. -/
theorem retry_exit_keeps_attempt_status :
    ¬ All (fun flow => flow.session.status = .failed)
      (runAction 10 (.tryMax (.const 2) "attempt"
          [.exec (Effect.ofFun "set" (·.set "done" (.bool true))), .exit .always])
        (Session.new "user" 0).markFailed []) := by
  intro h
  -- the run where the clock reads 0 and no stop is signalled
  have h' : _ = Status.failed := h 0 none 0 none 0 0
  revert h'
  decide

end LoadScenario
