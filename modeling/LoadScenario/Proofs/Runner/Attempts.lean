import LoadScenario.Proofs.Runner.Rounds

/-!
# The attempts of a retry block

A retry block enters its counter, then makes attempts: each attempt runs the
body from the session with its failure cleared, and reads how the body ended
(`Runner.attemptEnd`). An attempt that succeeds ends the block with the status
from before it; an exit aimed at the block ends it as the attempt left the
session; a failed attempt is counted and retried while attempts are left and
the stop signal is not raised; any other flow leaves the block.
`Runner.Attempts` describes a whole run of the attempts, body run by body run,
and `attempts_of_runs` shows that every run of `attempt` is one it describes.

The laws of the attempts are proved on `Attempts` by induction, carrying
`Session.AtRound` from one attempt to the next: each attempt starts active with
the counter's attribute at its index and every other attribute as the last
attempt left it (`Attempts.starts`, `Attempts.kept`); every attempt but the last
failed (`Attempts.retried`); there are at most as many as allowed
(`Attempts.bounded`); and the last one decides how the block ends
(`Attempts.last`).
-/

namespace LoadScenario

open Prog Session

namespace Runner

/-- How a retry block reads the flow an attempt's body ended with: the body's
end, or an interrupt aimed at the block's own frame, the innermost of `sc`,
ends the attempt, as an exit when the interrupt was one; any other flow leaves
the block as it is. -/
def attemptEnd (sc : Scope) : Flow → Except Flow (Session × Bool)
  | .next s => .ok (s, false)
  | .interrupt s id c =>
    if some id = sc.head?.map (·.id) then .ok (s, c == .exit) else .error (.interrupt s id c)
  | flow => .error flow

variable {sc : Scope} {flow flow' : Flow} {s' : Session} {exited : Bool}

/-- An attempt the block reads as ended carries the session the body ended with. -/
theorem attemptEnd_session (h : attemptEnd sc flow = .ok (s', exited)) : flow.session = s' := by
  cases flow with
  | next s => cases h; rfl
  | interrupt s id c =>
    simp only [attemptEnd] at h
    split at h
    · cases h; rfl
    · cases h
  | exit | stopped => cases h

/-- A flow the block does not read as the end of an attempt is passed on as it is. -/
theorem attemptEnd_error (h : attemptEnd sc flow = .error flow') : flow' = flow := by
  cases flow with
  | next s => cases h
  | interrupt s id c =>
    simp only [attemptEnd] at h
    split at h
    · cases h
    · cases h; rfl
  | exit | stopped => cases h; rfl

section Attempts

variable (max : Nat) (prior : Status) (c : String) (body : Chain) (sc : Scope)

/-- The runs of a retry block's attempts from a session at the head of an
attempt, with the body runs they make, in order, and the flow the block ends
with. `prior` is the status from before the block, `max` the number of attempts
allowed. -/
inductive Attempts : Session → List BodyRun → Flow → Prop
  /-- The body leaves the block: its flow is passed on. -/
  | passOn {s : Session} {r : BodyRun} {t : Nat}
      (hbefore : r.before = s) (hstart : r.start = s.markSucceeded) (hr : r.Of body sc)
      (hend : attemptEnd sc r.flow = .error r.flow) :
      Attempts s [r] (r.flow.mapSession (·.leave c t))
  /-- An exit aimed at the block ends the attempt and the block. -/
  | exit {s s' : Session} {r : BodyRun} {t : Nat}
      (hbefore : r.before = s) (hstart : r.start = s.markSucceeded) (hr : r.Of body sc)
      (hend : attemptEnd sc r.flow = .ok (s', true)) :
      Attempts s [r] (.next (s'.leave c t))
  /-- The attempt succeeds: the block ends with the status from before it. -/
  | success {s s' : Session} {r : BodyRun} {t : Nat}
      (hbefore : r.before = s) (hstart : r.start = s.markSucceeded) (hr : r.Of body sc)
      (hend : attemptEnd sc r.flow = .ok (s', false)) (hok : s'.isFailed = false) :
      Attempts s [r] (.next ((s'.withStatus prior).leave c t))
  /-- The attempt fails and was the last one allowed: the block gives up. -/
  | giveUp {s s' : Session} {r : BodyRun} {t : Nat}
      (hbefore : r.before = s) (hstart : r.start = s.markSucceeded) (hr : r.Of body sc)
      (hend : attemptEnd sc r.flow = .ok (s', false)) (hfailed : s'.isFailed = true)
      (hmax : max ≤ s.iterationOf c + 1) :
      Attempts s [r] (.next (s'.leave c t))
  /-- The attempt fails and cannot be counted: the block ends. -/
  | uncounted {s s' : Session} {r : BodyRun} {e : SessionError} {t : Nat}
      (hbefore : r.before = s) (hstart : r.start = s.markSucceeded) (hr : r.Of body sc)
      (hend : attemptEnd sc r.flow = .ok (s', false)) (hfailed : s'.isFailed = true)
      (hmax : s.iterationOf c + 1 < max) (hinc : s'.incrementCounter c = .error e) :
      Attempts s [r] (.next (s'.markFailed.leave c t))
  /-- The attempt fails and is counted, but the stop signal is raised: the block stops. -/
  | stop {s s' s'' : Session} {r : BodyRun} {t : Nat}
      (hbefore : r.before = s) (hstart : r.start = s.markSucceeded) (hr : r.Of body sc)
      (hend : attemptEnd sc r.flow = .ok (s', false)) (hfailed : s'.isFailed = true)
      (hmax : s.iterationOf c + 1 < max) (hinc : s'.incrementCounter c = .ok s'') :
      Attempts s [r] (.stopped (s''.leave c t))
  /-- The attempt fails and is counted, and the next attempts follow. -/
  | retry {s s' s'' : Session} {r : BodyRun} {rs : List BodyRun} {flow : Flow}
      (hbefore : r.before = s) (hstart : r.start = s.markSucceeded) (hr : r.Of body sc)
      (hend : attemptEnd sc r.flow = .ok (s', false)) (hfailed : s'.isFailed = true)
      (hmax : s.iterationOf c + 1 < max) (hinc : s'.incrementCounter c = .ok s'')
      (hrest : Attempts s'' rs flow) : Attempts s (r :: rs) flow

end Attempts

variable {max : Nat} {prior : Status} {c : String} {body : Chain}

/-- Every run of a retry block's attempts is one that `Attempts` describes. -/
theorem attempts_of_runs (n : Nat) :
    ∀ {s : Session} {tr : List Exchange} {flow : Flow},
      Runs (attempt n max prior c body s sc) tr flow →
      ∃ rs, Attempts max prior c body sc s rs flow := by
  induction n with
  | zero => intro s tr flow h; cases h
  | succ n ih =>
    intro s tr flow h
    rw [attempt] at h
    obtain ⟨tr₁, fl, tr₂, rfl, hb, h₂⟩ := Runs.of_bind h
    let r : BodyRun := ⟨s, s.markSucceeded, tr₁, fl⟩
    have hr : r.Of body sc := ⟨n, hb⟩
    dsimp only at h₂
    -- the block's reading of the body's flow is `attemptEnd`
    split at h₂
    · next flow' hres =>
      have hend : attemptEnd sc fl = .error flow' := hres
      obtain rfl := attemptEnd_error hend
      obtain ⟨t, rfl, rfl⟩ := runs_passOn.mp h₂
      exact ⟨[r], .passOn rfl rfl hr hend⟩
    · next s' hres =>
      have hend : attemptEnd sc fl = .ok (s', true) := hres
      obtain ⟨t, rfl, rfl⟩ := runs_finish.mp h₂
      exact ⟨[r], .exit rfl rfl hr hend⟩
    · next s' hres =>
      have hend : attemptEnd sc fl = .ok (s', false) := hres
      cases hfailed : s'.isFailed with
      | false =>
        simp only [hfailed, Bool.not_false, if_true] at h₂
        obtain ⟨t, rfl, rfl⟩ := runs_finish.mp h₂
        exact ⟨[r], .success rfl rfl hr hend hfailed⟩
      | true =>
        simp only [hfailed, Bool.not_true, Bool.false_eq_true, if_false] at h₂
        by_cases hmax : max ≤ s.iterationOf c + 1
        · simp only [hmax, if_true] at h₂
          obtain ⟨tr₃, rfl, h₃⟩ := runs_emit_bind.mp h₂
          obtain ⟨t, rfl, rfl⟩ := runs_finish.mp h₃
          exact ⟨[r], .giveUp rfl rfl hr hend hfailed hmax⟩
        · simp only [hmax, if_false] at h₂
          have hmax' : s.iterationOf c + 1 < max := Nat.lt_of_not_le hmax
          obtain ⟨tr₃, rfl, h₃⟩ := runs_emit_bind.mp h₂
          cases hinc : s'.incrementCounter c with
          | error e =>
            simp only [hinc] at h₃
            obtain ⟨tr₄, s₂, tr₅, rfl, hf, h₅⟩ := Runs.of_bind h₃
            obtain ⟨rfl, rfl⟩ := runs_fail.mp hf
            obtain ⟨t, rfl, rfl⟩ := runs_finish.mp h₅
            exact ⟨[r], .uncounted rfl rfl hr hend hfailed hmax' hinc⟩
          | ok s'' =>
            simp only [hinc] at h₃
            obtain ⟨sig, tr₄, rfl, h₄⟩ := runs_stopped_bind.mp h₃
            cases sig with
            | some _ =>
              obtain ⟨t, rfl, rfl⟩ := runs_passOn.mp h₄
              exact ⟨[r], .stop rfl rfl hr hend hfailed hmax' hinc⟩
            | none =>
              obtain ⟨rs, hrs⟩ := ih h₄
              exact ⟨r :: rs, .retry rfl rfl hr hend hfailed hmax' hinc hrs⟩

/-! ## How the last attempt ends the block -/

/-- How a retry block ends after its last attempt `r`, the `made`-th: a
success ends it with the status from before the block; a failure ends it
failed once all `max` attempts are made, and otherwise only through a stop; an
exit aimed at the block ends it with the session as the attempt left it; any
other flow is passed on. -/
structure LastAttempt (max : Nat) (prior : Status) (c : String) (sc : Scope) (made : Nat)
    (r : BodyRun) (flow : Flow) : Prop where
  success : ∀ s', attemptEnd sc r.flow = .ok (s', false) → s'.isFailed = false →
    ∃ t, flow = .next ((s'.withStatus prior).leave c t)
  failure : ∀ s', attemptEnd sc r.flow = .ok (s', false) → s'.isFailed = true →
    (made = max ∧ ∃ t, flow = .next (s'.leave c t)) ∨ (made < max ∧ ∃ s'', flow = .stopped s'')
  exit : ∀ s', attemptEnd sc r.flow = .ok (s', true) → ∃ t, flow = .next (s'.leave c t)
  passOn : attemptEnd sc r.flow = .error r.flow → ∃ t, flow = r.flow.mapSession (·.leave c t)

namespace LastAttempt

variable {made t : Nat} {r : BodyRun}

theorem of_passOn (hend : attemptEnd sc r.flow = .error r.flow) :
    LastAttempt max prior c sc made r (r.flow.mapSession (·.leave c t)) where
  success _ h _ := by rw [hend] at h; cases h
  failure _ h _ := by rw [hend] at h; cases h
  exit _ h := by rw [hend] at h; cases h
  passOn _ := ⟨t, rfl⟩

theorem of_exit (hend : attemptEnd sc r.flow = .ok (s', true)) :
    LastAttempt max prior c sc made r (.next (s'.leave c t)) where
  success _ h _ := by rw [hend] at h; cases h
  failure _ h _ := by rw [hend] at h; cases h
  exit _ h := by rw [hend] at h; cases h; exact ⟨t, rfl⟩
  passOn h := by rw [hend] at h; cases h

theorem of_success (hend : attemptEnd sc r.flow = .ok (s', false)) (hok : s'.isFailed = false) :
    LastAttempt max prior c sc made r (.next ((s'.withStatus prior).leave c t)) where
  success _ h _ := by rw [hend] at h; cases h; exact ⟨t, rfl⟩
  failure _ h hf := by rw [hend] at h; cases h; rw [hok] at hf; cases hf
  exit _ h := by rw [hend] at h; cases h
  passOn h := by rw [hend] at h; cases h

theorem of_failure (hend : attemptEnd sc r.flow = .ok (s', false)) (hfailed : s'.isFailed = true)
    (hflow : (made = max ∧ ∃ t, flow = .next (s'.leave c t)) ∨
      (made < max ∧ ∃ s'', flow = .stopped s'')) :
    LastAttempt max prior c sc made r flow where
  success _ h hok := by rw [hend] at h; cases h; rw [hfailed] at hok; cases hok
  failure _ h _ := by rw [hend] at h; cases h; exact hflow
  exit _ h := by rw [hend] at h; cases h
  passOn h := by rw [hend] at h; cases h

end LastAttempt

/-! ## The laws of the attempts -/

section Laws

variable {A : List String} {now : Nat} {s : Session} {rs : List BodyRun} {flow : Flow}

/-- Each body run of the attempts is a run of the body in the block's scope. -/
theorem Attempts.runs (h : Attempts max prior c body sc s rs flow) : ∀ r ∈ rs, r.Of body sc := by
  induction h with
  | retry _ _ hr _ _ _ _ _ ih =>
    intro r' hr'
    rcases List.mem_cons.mp hr' with rfl | hr'
    · exact hr
    · exact ih r' hr'
  | passOn _ _ hr | exit _ _ hr | success _ _ hr | giveUp _ _ hr | uncounted _ _ hr
  | stop _ _ hr =>
    intro r' hr'
    rw [List.mem_singleton.mp hr']
    exact hr

/-- The first attempt starts from the session the attempts start from, its
failure cleared. -/
theorem Attempts.head (h : Attempts max prior c body sc s rs flow) :
    ∃ r rs', rs = r :: rs' ∧ r.before = s ∧ r.start = s.markSucceeded := by
  cases h with
  | passOn hbefore hstart | exit hbefore hstart | success hbefore hstart
  | giveUp hbefore hstart | uncounted hbefore hstart | stop hbefore hstart
  | retry hbefore hstart => exact ⟨_, _, rfl, hbefore, hstart⟩

/-- Every attempt but the last failed: its body came to its end failed, or a
failure interrupt aimed at the block cut it. -/
theorem Attempts.retried (h : Attempts max prior c body sc s rs flow) :
    ∀ j (hj : j + 1 < rs.length),
      ∃ s', attemptEnd sc rs[j].flow = .ok (s', false) ∧ s'.isFailed = true := by
  induction h with
  | @retry s s' s'' r rs flow _ _ _ hend hfailed _ _ _ ih =>
    intro j hj
    cases j with
    | zero => exact ⟨s', hend, hfailed⟩
    | succ j => exact ih j (by simpa using hj)
  | passOn | exit | success | giveUp | uncounted | stop => intro j hj; simp at hj

/-- Each attempt after the first starts with every attribute but the counter's
as the attempt before it left the session. -/
theorem Attempts.kept (h : Attempts max prior c body sc s rs flow) :
    ∀ j (hj : j + 1 < rs.length) x, x ≠ c →
      rs[j + 1].start.get? x = rs[j].flow.session.get? x := by
  induction h with
  | @retry s s' s'' r rs flow _ _ _ hend _ _ hinc hrest ih =>
    intro j hj x hx
    cases j with
    | zero =>
      obtain ⟨r', rs', rfl, -, hstart'⟩ := hrest.head
      simp only [List.getElem_cons_succ, List.getElem_cons_zero]
      rw [hstart', attemptEnd_session hend, get?_markSucceeded]
      exact get?_incrementCounter_of_ne hinc hx
    | succ j => exact ih j (by simpa using hj) x hx
  | passOn | exit | success | giveUp | uncounted | stop => intro j hj; simp at hj

variable (hb : ∀ b ∈ body, b.Within Action.KeepsCounters)
include hb

/-- An attempt the block reads as ended is balanced against the head of the attempt. -/
theorem BodyRun.attempt_balanced {r : BodyRun} (hstart : r.start = s.markSucceeded)
    (hr : r.Of body sc) (hend : attemptEnd sc r.flow = .ok (s', exited)) : s.Balanced s' := by
  have hcleared : s.Balanced s.markSucceeded := .of_bookkeeping rfl rfl
  have hbody := BodyRun.balanced hb hr
  rw [hstart, attemptEnd_session hend] at hbody
  exact hcleared.trans hbody

/-- Each attempt starts from the head of its round, its failure cleared. -/
theorem Attempts.starts (h : Attempts max prior c body sc s rs flow) :
    ∀ {i}, s.AtRound A c now i → ∀ j (hj : j < rs.length),
      rs[j].before.AtRound A c now (i + j) ∧ rs[j].start = rs[j].before.markSucceeded := by
  induction h with
  | retry hbefore hstart hr hend _ _ hinc _ ih =>
    intro i hs j hj
    cases j with
    | zero => exact ⟨hbefore ▸ hs, hbefore ▸ hstart⟩
    | succ j =>
      have hnext := hs.counted (BodyRun.attempt_balanced hb hstart hr hend) hinc
      simp only [List.getElem_cons_succ]
      rw [show i + (j + 1) = i + 1 + j by omega]
      exact ih hnext j (by simpa using hj)
  | passOn hbefore hstart | exit hbefore hstart | success hbefore hstart
  | giveUp hbefore hstart | uncounted hbefore hstart | stop hbefore hstart =>
    intro i hs j hj
    have hj0 : j = 0 := by simpa using hj
    subst hj0
    exact ⟨hbefore ▸ hs, hbefore ▸ hstart⟩

/-- A retry block makes at most as many attempts as it allows. -/
theorem Attempts.bounded (h : Attempts max prior c body sc s rs flow) :
    ∀ {i}, s.AtRound A c now i → i < max → i + rs.length ≤ max := by
  induction h with
  | retry _ hstart hr hend _ hmax hinc _ ih =>
    intro i hs _
    rw [hs.iterationOf] at hmax
    have := ih (hs.counted (BodyRun.attempt_balanced hb hstart hr hend) hinc) hmax
    simp only [List.length_cons]
    omega
  | passOn | exit | success | giveUp | uncounted | stop => intro i _ hi; simp; omega

/-- The last attempt decides how the block ends. -/
theorem Attempts.last (h : Attempts max prior c body sc s rs flow) :
    ∀ {i}, s.AtRound A c now i → i < max → ∀ r, rs.getLast? = some r →
      LastAttempt max prior c sc (i + rs.length) r flow := by
  induction h with
  | passOn _ _ _ hend => intro i _ _ r hr; cases hr; exact .of_passOn hend
  | exit _ _ _ hend => intro i _ _ r hr; cases hr; exact .of_exit hend
  | success _ _ _ hend hok => intro i _ _ r hr; cases hr; exact .of_success hend hok
  | giveUp _ _ _ hend hfailed hmax =>
    intro i hs hi r hr
    cases hr
    rw [hs.iterationOf] at hmax
    exact .of_failure hend hfailed (.inl ⟨by simp; omega, _, rfl⟩)
  | uncounted _ hstart hr hend _ _ hinc =>
    intro i hs
    obtain ⟨_, hok⟩ := hs.increment_ok (BodyRun.attempt_balanced hb hstart hr hend)
    cases hinc.symm.trans hok
  | stop _ _ _ hend hfailed hmax =>
    intro i hs hi r hr
    cases hr
    rw [hs.iterationOf] at hmax
    exact .of_failure hend hfailed (.inr ⟨by simp; omega, _, rfl⟩)
  | @retry s s' s'' r rs flow _ hstart hr hend _ hmax hinc hrest ih =>
    intro i hs _ r' hr'
    rw [hs.iterationOf] at hmax
    obtain ⟨r₁, rs₁, rfl, -⟩ := hrest.head
    rw [List.getLast?_cons_cons] at hr'
    have hlast := ih (hs.counted (BodyRun.attempt_balanced hb hstart hr hend) hinc) hmax r' hr'
    have hmade : i + (r :: r₁ :: rs₁).length = i + 1 + (r₁ :: rs₁).length := by
      simp only [List.length_cons]
      omega
    rwa [hmade]

/-- However the attempts end, the counter is left finished and the stack is
back below it. -/
theorem Attempts.leftAt (h : Attempts max prior c body sc s rs flow) :
    ∀ {i}, s.AtRound A c now i → ∃ k, flow.session.LeftAt A c now k := by
  induction h with
  | @passOn s r t _ hstart hr =>
    intro i hs
    have hcleared : s.Balanced s.markSucceeded := .of_bookkeeping rfl rfl
    have hbody := BodyRun.balanced hb hr
    rw [hstart] at hbody
    rw [Flow.session_mapSession]
    exact ⟨i, hs.leave (hcleared.trans hbody) t⟩
  | @exit s s' r t _ hstart hr hend =>
    intro i hs
    exact ⟨i, hs.leave (BodyRun.attempt_balanced hb hstart hr hend) t⟩
  | @success s s' r t _ hstart hr hend =>
    intro i hs
    have hstatus : s'.Balanced (s'.withStatus prior) := .of_bookkeeping rfl rfl
    exact ⟨i, hs.leave ((BodyRun.attempt_balanced hb hstart hr hend).trans hstatus) t⟩
  | @giveUp s s' r t _ hstart hr hend =>
    intro i hs
    exact ⟨i, hs.leave (BodyRun.attempt_balanced hb hstart hr hend) t⟩
  | @uncounted s s' r e t _ hstart hr hend =>
    intro i hs
    have hfailed : s'.Balanced s'.markFailed := .of_bookkeeping rfl rfl
    exact ⟨i, hs.leave ((BodyRun.attempt_balanced hb hstart hr hend).trans hfailed) t⟩
  | @stop s s' s'' r t _ hstart hr hend _ _ hinc =>
    intro i hs
    have hnext := hs.counted (BodyRun.attempt_balanced hb hstart hr hend) hinc
    exact ⟨i + 1, hnext.leave (.refl _) t⟩
  | retry _ hstart hr hend _ _ hinc _ ih =>
    intro i hs
    exact ih (hs.counted (BodyRun.attempt_balanced hb hstart hr hend) hinc)

end Laws

end Runner

end LoadScenario
