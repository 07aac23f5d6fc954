import LoadScenario.Proofs.Runner.Rounds

/-!
# The passes of a loop

A loop enters its counter, fixes its plan, then makes passes: each pass reads
the stop signal, checks the loop's head, binds a foreach loop's element and
runs the body; a body that goes on has its pass counted in the counter, and the
next pass begins. `Runner.Passes` describes a whole run of the passes, body run
by body run, and `passes_of_runs` shows that every run of `loopPasses` is one
it describes.

The laws of the passes are then proved on `Passes` by induction, carrying
`Session.AtRound` from the head of one pass to the next.
-/

namespace LoadScenario

open Prog

/-- How a loop ends when its body leaves a pass with `flow` at time `t`: an
interrupt aimed at the loop's own frame, the innermost of `sc`, ends the loop and
goes on after it; anything else is passed on. Either way the counter is left. -/
def Flow.leaveLoop (sc : Scope) (counter : String) (t : Nat) : Flow → Flow
  | .interrupt s id c =>
    if some id = sc.head?.map (·.id) then .next (s.leave counter t)
    else .interrupt (s.leave counter t) id c
  | flow => flow.mapSession (·.leave counter t)

namespace Runner

section Passes

variable (g : LoopGuard) (counter : String) (body : Chain) (plan : Plan) (started : Nat)
  (sc : Scope)

/-- The runs of a loop's passes from a session at the loop's head, with the body
runs they make, in order, and the flow the loop ends with. -/
inductive Passes : Session → List BodyRun → Flow → Prop
  /-- The stop signal is found raised at the head: the loop stops. -/
  | stop {s : Session} {t : Nat} : Passes s [] (.stopped (s.leave counter t))
  /-- The head check says the loop is over. -/
  | done {s : Session} {tr : List Exchange} {t : Nat}
      (hp : Runs (proceed plan g started s (s.iterationOf counter)) tr (.ok false)) :
      Passes s [] (.next (s.leave counter t))
  /-- The head check cannot be resolved: the session fails and the loop ends. -/
  | unresolved {s : Session} {tr : List Exchange} {e : EvalError} {t : Nat}
      (hp : Runs (proceed plan g started s (s.iterationOf counter)) tr (.error e)) :
      Passes s [] (.next (s.markFailed.leave counter t))
  /-- The head check lets a pass through and its body goes on: the pass is
  counted and the next passes follow from the counted session. -/
  | pass {s s' s'' : Session} {tr : List Exchange} {r : BodyRun} {rs : List BodyRun} {flow : Flow}
      (hp : Runs (proceed plan g started s (s.iterationOf counter)) tr (.ok true))
      (hbefore : r.before = s) (hstart : r.start = bindElement plan g (s.iterationOf counter) s)
      (hr : r.Of body sc) (hnext : r.flow = .next s') (hinc : s'.incrementCounter counter = .ok s'')
      (hrest : Passes s'' rs flow) : Passes s (r :: rs) flow
  /-- The body goes on but the pass cannot be counted: the session fails and
  the loop ends. -/
  | uncounted {s s' : Session} {tr : List Exchange} {r : BodyRun} {e : SessionError} {t : Nat}
      (hp : Runs (proceed plan g started s (s.iterationOf counter)) tr (.ok true))
      (hbefore : r.before = s) (hstart : r.start = bindElement plan g (s.iterationOf counter) s)
      (hr : r.Of body sc) (hnext : r.flow = .next s') (hinc : s'.incrementCounter counter = .error e) :
      Passes s [r] (.next (s'.markFailed.leave counter t))
  /-- The body leaves the pass: the loop ends. -/
  | left {s : Session} {tr : List Exchange} {r : BodyRun} {t : Nat}
      (hp : Runs (proceed plan g started s (s.iterationOf counter)) tr (.ok true))
      (hbefore : r.before = s) (hstart : r.start = bindElement plan g (s.iterationOf counter) s)
      (hr : r.Of body sc) (hleft : r.wentOn = false) :
      Passes s [r] (r.flow.leaveLoop sc counter t)

end Passes

variable {g : LoopGuard} {counter : String} {body : Chain} {plan : Plan} {started : Nat}
  {sc : Scope}

/-- Every run of a loop's passes is one that `Passes` describes. -/
theorem passes_of_runs (n : Nat) :
    ∀ {s : Session} {tr : List Exchange} {flow : Flow},
      Runs (loopPasses n g counter body plan started s sc) tr flow →
      ∃ rs, Passes g counter body plan started sc s rs flow := by
  induction n with
  | zero => intro s tr flow h; cases h
  | succ n ih =>
    intro s tr flow h
    rw [loopPasses] at h
    obtain ⟨r, tr₁, rfl, h₁⟩ := runs_stopped_bind.mp h
    cases r with
    | some r =>
      -- the stop signal is raised at the head
      obtain ⟨t, tr₂, rfl, h₂⟩ := runs_now.mp h₁
      obtain ⟨rfl, rfl⟩ := runs_pure.mp h₂
      exact ⟨[], .stop⟩
    | none =>
      obtain ⟨tr₂, res, tr₃, rfl, hp, h₃⟩ := Runs.of_bind h₁
      rcases res with e | _ | _
      · -- the head check fails to resolve
        obtain ⟨tr₄, s', tr₅, rfl, hf, h₅⟩ := Runs.of_bind h₃
        obtain ⟨rfl, rfl⟩ := runs_fail.mp hf
        obtain ⟨t, rfl, rfl⟩ := runs_finish.mp h₅
        exact ⟨[], .unresolved hp⟩
      · obtain ⟨t, rfl, rfl⟩ := runs_finish.mp h₃
        exact ⟨[], .done hp⟩
      · obtain ⟨tr₄, fl, tr₅, rfl, hb, h₅⟩ := Runs.of_bind h₃
        let r : BodyRun := ⟨s, bindElement plan g (s.iterationOf counter) s, tr₄, fl⟩
        have hr : r.Of body sc := ⟨n, hb⟩
        cases fl with
        | next s' =>
          cases hinc : s'.incrementCounter counter with
          | error e =>
            simp only [hinc] at h₅
            obtain ⟨tr₆, s'', tr₇, rfl, hf, h₇⟩ := Runs.of_bind h₅
            obtain ⟨rfl, rfl⟩ := runs_fail.mp hf
            obtain ⟨t, rfl, rfl⟩ := runs_finish.mp h₇
            exact ⟨[r], .uncounted hp rfl rfl hr rfl hinc⟩
          | ok s'' =>
            simp only [hinc] at h₅
            obtain ⟨tr₆, rfl, h₆⟩ := runs_yield.mp h₅
            obtain ⟨rs, hrs⟩ := ih h₆
            exact ⟨r :: rs, .pass hp rfl rfl hr rfl hinc hrs⟩
        | interrupt s' id c =>
          by_cases hid : some id = sc.head?.map (·.id)
          · simp only [hid, if_true] at h₅
            obtain ⟨t, rfl, rfl⟩ := runs_finish.mp h₅
            have hl : r.flow.leaveLoop sc counter t = .next (s'.leave counter t) := by
              simp [r, Flow.leaveLoop, hid]
            exact ⟨[r], hl ▸ .left hp rfl rfl hr rfl⟩
          · simp only [hid, if_false] at h₅
            obtain ⟨t, rfl, rfl⟩ := runs_passOn.mp h₅
            have hl : r.flow.leaveLoop sc counter t =
                (Flow.interrupt s' id c).mapSession (·.leave counter t) := by
              simp [r, Flow.leaveLoop, hid, Flow.mapSession]
            exact ⟨[r], hl ▸ .left hp rfl rfl hr rfl⟩
        | exit s' =>
          obtain ⟨t, rfl, rfl⟩ := runs_passOn.mp h₅
          exact ⟨[r], .left (t := t) hp rfl rfl hr rfl⟩
        | stopped s' =>
          obtain ⟨t, rfl, rfl⟩ := runs_passOn.mp h₅
          exact ⟨[r], .left (t := t) hp rfl rfl hr rfl⟩

end Runner

/-- The bound a loop's plan puts on its passes, if it has one. -/
def Plan.bound? : Plan → Option Nat
  | .times n => some n
  | .each vs => some vs.length
  | .guarded => none

namespace Runner

open Session

/-- The session a loop ends with is the body's, its counter left. -/
@[simp]
theorem Flow.session_leaveLoop (sc : Scope) (c : String) (t : Nat) (flow : Flow) :
    (flow.leaveLoop sc c t).session = flow.session.leave c t := by
  cases flow with
  | interrupt s id cause =>
    by_cases h : some id = sc.head?.map (·.id) <;> simp [Flow.leaveLoop, h, Flow.session]
  | next | exit | stopped => rfl

/-- Binding a foreach element keeps the counters. -/
theorem balanced_bindElement (plan : Plan) (g : LoopGuard) (i : Nat) (s : Session) :
    s.Balanced (bindElement plan g i s) :=
  .of_bookkeeping (bindElement_bookkeeping plan g i s).2.1 (bindElement_bookkeeping plan g i s).2.2

/-- The passes were cut short: a body run left its pass, or the stop signal was
found raised at a loop head. -/
def CutShort (rs : List BodyRun) (flow : Flow) : Prop :=
  (∃ r ∈ rs, r.wentOn = false) ∨ ∃ s, flow = .stopped s

/-- The head check of a loop with a bound compares the iteration with it. -/
theorem runs_proceed_bound {plan : Plan} {m : Nat} (hm : plan.bound? = some m) {g : LoopGuard}
    {started k : Nat} {s : Session} {tr : List Exchange} {r : Except EvalError Bool}
    (h : Runs (proceed plan g started s k) tr r) : r = .ok (decide (k < m)) := by
  cases plan with
  | times n =>
    cases hm
    exact (runs_proceed_times.mp h).2
  | each vs =>
    cases hm
    exact (runs_proceed_each.mp h).2
  | guarded => cases hm

/-- Each body run of the passes is a run of the body in the loop's scope. -/
theorem Passes.runs {g : LoopGuard} {c : String} {body : Chain} {plan : Plan} {started : Nat}
    {sc : Scope} {s : Session} {rs : List BodyRun} {flow : Flow}
    (h : Passes g c body plan started sc s rs flow) : ∀ r ∈ rs, r.Of body sc := by
  induction h with
  | stop | done | unresolved => intro r hr; cases hr
  | pass _ _ _ hr _ _ _ ih =>
    intro r' hr'
    rcases List.mem_cons.mp hr' with rfl | hr'
    · exact hr
    · exact ih r' hr'
  | uncounted _ _ _ hr | left _ _ _ hr =>
    intro r' hr'
    rw [List.mem_singleton.mp hr']
    exact hr

section Laws

variable {g : LoopGuard} {c : String} {body : Chain} {plan : Plan} {started : Nat} {sc : Scope}
  {A : List String} {s : Session} {rs : List BodyRun} {flow : Flow}
  (hb : ∀ b ∈ body, b.Within Action.KeepsCounters)
include hb

/-- A body run from the head of a pass is balanced against it. -/
theorem BodyRun.balanced_before {r : BodyRun} {i : Nat}
    (hstart : r.start = bindElement plan g i s) (hr : r.Of body sc) :
    s.Balanced r.flow.session :=
  (balanced_bindElement plan g i s).trans (hstart ▸ BodyRun.balanced hb hr)

/-- Every pass that is made can be counted, so no loop of such a body ends uncounted. -/
theorem BodyRun.counted {r : BodyRun} {s' : Session} {i : Nat} (hs : s.AtRound A c started i)
    (hstart : r.start = bindElement plan g (s.iterationOf c) s) (hr : r.Of body sc)
    (hnext : r.flow = .next s') : ∃ s'', s'.incrementCounter c = .ok s'' := by
  have hbal := BodyRun.balanced_before hb hstart hr
  rw [hnext] at hbal
  exact hs.increment_ok hbal

/-- A pass whose body went on and that was counted leaves the loop at the head
of the next round. -/
theorem BodyRun.next_round {r : BodyRun} {s' s'' : Session} {i : Nat}
    (hs : s.AtRound A c started i) (hstart : r.start = bindElement plan g (s.iterationOf c) s)
    (hr : r.Of body sc) (hnext : r.flow = .next s') (hinc : s'.incrementCounter c = .ok s'') :
    s''.AtRound A c started (i + 1) := by
  have hbal := BodyRun.balanced_before hb hstart hr
  rw [hnext] at hbal
  exact hs.counted hbal hinc

/-- Each body run starts a pass: the session at its head is at that pass, and
the body starts from it with the foreach element bound. -/
theorem Passes.starts (h : Passes g c body plan started sc s rs flow) :
    ∀ {i}, s.AtRound A c started i → ∀ j (hj : j < rs.length),
      rs[j].before.AtRound A c started (i + j) ∧
        rs[j].start = bindElement plan g (i + j) rs[j].before := by
  induction h with
  | stop | done | unresolved => intro i _ j hj; exact absurd hj (Nat.not_lt_zero j)
  | pass _ hbefore hstart hr hnext hinc _ ih =>
    intro i hs j hj
    cases j with
    | zero =>
      simp only [List.getElem_cons_zero, Nat.add_zero]
      exact ⟨hbefore ▸ hs, by rw [hstart, hbefore, hs.iterationOf]⟩
    | succ j =>
      simp only [List.getElem_cons_succ]
      have := ih (BodyRun.next_round hb hs hstart hr hnext hinc) j (by simpa using hj)
      rwa [Nat.add_right_comm] at this
  | uncounted _ _ hstart hr hnext hinc =>
    intro i hs
    obtain ⟨_, hok⟩ := BodyRun.counted hb hs hstart hr hnext
    cases hinc.symm.trans hok
  | left _ hbefore hstart =>
    intro i hs j hj
    have hj0 : j = 0 := by simpa using hj
    subst hj0
    simp only [List.getElem_cons_zero, Nat.add_zero]
    exact ⟨hbefore ▸ hs, by rw [hstart, hbefore, hs.iterationOf]⟩

/-- Each body run was let in by the head check of its pass answering `true`. -/
theorem Passes.heads (h : Passes g c body plan started sc s rs flow) :
    ∀ {i}, s.AtRound A c started i → ∀ j (hj : j < rs.length),
      ∃ tr, Runs (proceed plan g started rs[j].before (i + j)) tr (.ok true) := by
  induction h with
  | stop | done | unresolved => intro i _ j hj; exact absurd hj (Nat.not_lt_zero j)
  | pass hp hbefore hstart hr hnext hinc _ ih =>
    intro i hs j hj
    cases j with
    | zero =>
      simp only [List.getElem_cons_zero, Nat.add_zero]
      rw [hbefore, ← hs.iterationOf]
      exact ⟨_, hp⟩
    | succ j =>
      simp only [List.getElem_cons_succ]
      rw [show i + (j + 1) = i + 1 + j by omega]
      exact ih (BodyRun.next_round hb hs hstart hr hnext hinc) j (by simpa using hj)
  | uncounted _ _ hstart hr hnext hinc =>
    intro i hs
    obtain ⟨_, hok⟩ := BodyRun.counted hb hs hstart hr hnext
    cases hinc.symm.trans hok
  | left hp hbefore =>
    intro i hs j hj
    have hj0 : j = 0 := by simpa using hj
    subst hj0
    simp only [List.getElem_cons_zero, Nat.add_zero]
    rw [hbefore, ← hs.iterationOf]
    exact ⟨_, hp⟩

/-- When the passes end, the counter is left, finished at the number of body
runs that went on. -/
theorem Passes.leftAt (h : Passes g c body plan started sc s rs flow) :
    ∀ {i}, s.AtRound A c started i →
      flow.session.LeftAt A c started (i + rs.countP (·.wentOn)) := by
  induction h with
  | stop => intro i hs; exact hs.leave (.refl _) _
  | done => intro i hs; exact hs.leave (.refl _) _
  | @unresolved s tr e t =>
    intro i hs
    have hfailed : s.Balanced s.markFailed := .of_bookkeeping rfl rfl
    exact hs.leave hfailed t
  | @pass s s' s'' tr r rs flow _ _ hstart hr hnext hinc _ ih =>
    intro i hs
    have hcount : (r :: rs).countP (·.wentOn) = rs.countP (·.wentOn) + 1 :=
      List.countP_cons_of_pos (by simp [BodyRun.wentOn, hnext])
    rw [hcount, Nat.add_comm _ 1, ← Nat.add_assoc]
    exact ih (BodyRun.next_round hb hs hstart hr hnext hinc)
  | uncounted _ _ hstart hr hnext hinc =>
    intro i hs
    obtain ⟨_, hok⟩ := BodyRun.counted hb hs hstart hr hnext
    cases hinc.symm.trans hok
  | @left s tr r t _ _ hstart hr hleft =>
    intro i hs
    have hcount : [r].countP (·.wentOn) = 0 := by simp [hleft]
    rw [hcount, Flow.session_leaveLoop]
    exact hs.leave (BodyRun.balanced_before hb hstart hr) t

/-- A loop with a bound makes at most that many passes in all, and exactly that
many unless they are cut short. -/
theorem Passes.bounded {m : Nat} (hm : plan.bound? = some m)
    (h : Passes g c body plan started sc s rs flow) :
    ∀ {i}, s.AtRound A c started i → i ≤ m →
      i + rs.length ≤ m ∧ (i + rs.length = m ∨ CutShort rs flow) := by
  induction h with
  | stop => intro i _ him; exact ⟨by simpa using him, .inr (.inr ⟨_, rfl⟩)⟩
  | done hp =>
    intro i hs him
    have hover := runs_proceed_bound hm hp
    rw [hs.iterationOf] at hover
    have him' : ¬ i < m := by simpa using hover
    exact ⟨by simpa using him, .inl (by simp; omega)⟩
  | unresolved hp => intro; cases runs_proceed_bound hm hp
  | @pass s s' s'' tr r rs flow hp _ hstart hr hnext hinc _ ih =>
    intro i hs _
    have hlt : i < m := by simpa [hs.iterationOf] using runs_proceed_bound hm hp
    obtain ⟨hle, hcut⟩ := ih (BodyRun.next_round hb hs hstart hr hnext hinc) hlt
    refine ⟨by simp; omega, ?_⟩
    rcases hcut with heq | ⟨r', hr', hleft⟩ | hstop
    · exact .inl (by simp; omega)
    · exact .inr (.inl ⟨r', List.mem_cons_of_mem r hr', hleft⟩)
    · exact .inr (.inr hstop)
  | uncounted _ _ hstart hr hnext hinc =>
    intro i hs
    obtain ⟨_, hok⟩ := BodyRun.counted hb hs hstart hr hnext
    cases hinc.symm.trans hok
  | @left s tr r t hp _ _ _ hleft =>
    intro i hs _
    have hlt : i < m := by simpa [hs.iterationOf] using runs_proceed_bound hm hp
    exact ⟨by simp; omega, .inr (.inl ⟨r, List.mem_singleton_self r, hleft⟩)⟩

omit hb in
/-- A do-while loop's first pass is made unless the stop signal is found at its head. -/
theorem Passes.first_pass {cond : Source Bool} {l : Option (Source Duration)}
    (h : Passes (.doWhile cond l) c body .guarded started sc s rs flow)
    (hs : s.iterationOf c = 0) : rs ≠ [] ∨ ∃ s', flow = .stopped s' := by
  cases h with
  | stop => exact .inr ⟨_, rfl⟩
  | done hp | unresolved hp =>
    rcases runs_proceed_doWhile.mp hp with ⟨-, -, hr⟩ | ⟨hi, -⟩
    · cases hr
    · exact absurd hs hi
  | pass | uncounted | left => exact .inl (List.cons_ne_nil _ _)

end Laws

end Runner

end LoadScenario
