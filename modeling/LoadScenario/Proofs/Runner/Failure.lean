import LoadScenario.Proofs.Runner.Interrupts
import LoadScenario.Proofs.Prog.Ending

/-!
# Where a failure goes

A session is marked failed by an effect, a feed, an evaluation error or a
counter error, and the runner reads the mark in one place: the checkpoint
before each action. Inside a block that catches failures, a retry block or an
`exitBlockOnFail`, the checkpoint hands a failed session to the innermost such
block and the next action is never run; outside every such block a failed
session goes on through the actions that follow. The main statement,
`failures_reach_innermost_catcher`, says so, and that an `exitBlockOnFail`
stops at the first boundary after its session fails and goes on after itself,
still failed: a run of its body that went on failed goes on as a run of the
actions after it (`runs_chain_append`), and the checkpoint before them hands the
session to the block's own frame.

Control flow never clears the mark: `failure_survives_without_retry` follows a
failed session through every action whose effects keep it and that holds no
retry block. Retry blocks are the exception. Each attempt starts from a
cleared session, and only an attempt whose body runs to its end gets back the
status from before the block; an exit ending the attempt leaves the session
cleared (`retry_exit_clears_failure`).
-/

namespace LoadScenario

open Prog Runner

/-! ## Actions that keep a failure -/

/-- An effect that never clears a failure: every session it can give from a
failed one is failed. -/
def Effect.KeepsFailure (e : Effect) : Prop :=
  ∀ s : Session, s.isFailed = true → All (fun s' => s'.isFailed = true) (e.apply s)

/-- An action that by itself never clears a failure: an effect that keeps it,
or any action but a retry block, which clears it for each attempt. -/
def Action.KeepsFailure : Action → Prop
  | .exec e => e.KeepsFailure
  | .tryMax .. => False
  | _ => True

/-- An action that holds no chain never clears a failure. -/
theorem Flow.Leaf.keeps_failure {s : Session} {flow : Flow} (h : flow.Leaf s)
    (hs : s.isFailed = true) : flow.session.isFailed = true := by
  obtain ⟨s', hs', rfl | rfl⟩ := h <;> exact hs'.keeps_failure hs

namespace Runner

/-- Neither does a checkpoint: it stops or interrupts with the session as it
is, or marked failed. -/
theorem Checked.keeps_failure {s : Session} {sc : Scope} {flow : Flow}
    (h : Checked s sc (.error flow)) (hs : s.isFailed = true) : flow.session.isFailed = true := by
  rcases h with rfl | ⟨f, -, -, s', rfl | rfl⟩ | ⟨-, f, -, rfl⟩
  · exact hs
  · exact hs
  · rfl
  · exact hs

/-! ## A failure survives every action without a retry block -/

/-- Failure survives the runs of chains, actions, loops and their passes whose
actions keep it; retry blocks promise nothing. -/
def keepsPost : Post where
  chain ch s _ flow := (∀ b ∈ ch, b.Within Action.KeepsFailure) → s.isFailed = true →
    flow.session.isFailed = true
  action a s _ flow := a.Within Action.KeepsFailure → s.isFailed = true →
    flow.session.isFailed = true
  loop _ _ _ body s _ flow := (∀ b ∈ body, b.Within Action.KeepsFailure) → s.isFailed = true →
    flow.session.isFailed = true
  passes _ _ body _ _ s _ flow := (∀ b ∈ body, b.Within Action.KeepsFailure) →
    s.isFailed = true → flow.session.isFailed = true
  retry _ _ _ _ _ _ := True
  attempts _ _ _ _ _ _ _ := True

variable {n : Nat}

theorem keeps_chain_succ (ih : keepsPost.Holds n) (ch : Chain) (s : Session) (sc : Scope)
    (hch : ∀ b ∈ ch, b.Within Action.KeepsFailure) (hs : s.isFailed = true) :
    All (fun flow => flow.session.isFailed = true) (runChain (n + 1) ch s sc) := by
  cases ch with
  | nil => exact hs
  | cons a rest =>
    simp only [runChain, all_bind]
    refine All.imp (checkpoint_checked s sc) fun r hr => ?_
    cases r with
    | error flow => exact hr.keeps_failure hs
    | ok s' =>
      obtain ⟨rfl, -⟩ := hr
      simp only [all_bind]
      refine All.imp (ih.action a s' sc) fun flow hflow => ?_
      have hfailed := hflow (hch a List.mem_cons_self) hs
      cases flow with
      | next s'' =>
        have hrest : ∀ b ∈ rest, b.Within Action.KeepsFailure :=
          fun b hb => hch b (List.mem_cons_of_mem _ hb)
        exact (ih.chain rest s'' sc).imp fun _ h => h hrest hfailed
      | interrupt => exact hfailed
      | exit => exact hfailed
      | stopped => exact hfailed

theorem keeps_action_succ (ih : keepsPost.Holds n) (a : Action) (s : Session) (sc : Scope)
    (ha : a.Within Action.KeepsFailure) (hs : s.isFailed = true) :
    All (fun flow => flow.session.isFailed = true) (runAction (n + 1) a s sc) := by
  -- every chain the action runs is one of its own, so its actions keep failure too
  have chain : ∀ ch ∈ a.children, ∀ sc',
      All (fun flow => flow.session.isFailed = true) (runChain n ch s sc') :=
    fun ch hch sc' => (ih.chain ch s sc').imp fun _ h => h (ha.chain hch) hs
  cases a with
  | exec e =>
    have he : e.KeepsFailure := ha.self
    simp only [runAction, all_bind]
    exact (he s hs).imp fun _ h => h
  | branch c t e => exact all_branch (fun ch hch => chain ch hch sc) hs rfl
  | switch key cs e => exact all_switch (fun ch hch => chain ch hch sc) hs rfl
  | randomSwitch cs e => exact all_randomSwitch (fun ch hch => chain ch hch sc) hs
  | loop g counter exitAsap body =>
    exact (ih.loop g counter exitAsap body s sc).imp fun _ h => h (ha.chain List.mem_cons_self) hs
  | tryMax attempts counter body => exact (ha.self : False).elim
  | exitBlockOnFail body =>
    exact all_exitBlockOnFail_session (P := fun s' => s'.isFailed = true)
      (chain body List.mem_cons_self _)
  | pace interval counter => exact (pace_leaf interval counter s).imp fun _ h => h.keeps_failure hs
  | pause interval => exact (pause_leaf interval s).imp fun _ h => h.keeps_failure hs
  | feed source name => exact (feed_leaf source s).imp fun _ h => h.keeps_failure hs
  | exit c => exact all_exit (by simpa only [session_exitFlow] using hs) hs rfl
  | stopInjector m => exact (stopInjector_leaf m s).imp fun _ h => h.keeps_failure hs

theorem keeps_loop_succ (ih : keepsPost.Holds n) (g : LoopGuard) (counter : String)
    (exitAsap : Bool) (body : Chain) (s : Session) (sc : Scope)
    (hb : ∀ b ∈ body, b.Within Action.KeepsFailure) (hs : s.isFailed = true) :
    All (fun flow => flow.session.isFailed = true) (runLoop (n + 1) g counter exitAsap body s sc) := by
  simp only [runLoop, all_bind, all_clock]
  intro started
  split
  · simp only [all_failNext]; rfl
  · next s' hs' =>
    -- entering the counter keeps the status
    have hfailed : s'.isFailed = true := by
      rw [Session.isFailed_eq_of_status (Session.enterCounter_ok hs').2.2.2.2]; exact hs
    split
    · simp only [all_bind, all_fail, all_finish]
      exact fun t => Session.isFailed_leave_of rfl t
    · exact (ih.passes g counter body _ started s' _).imp fun _ h => h hb hfailed

theorem keeps_passes_succ (ih : keepsPost.Holds n) (g : LoopGuard) (counter : String)
    (body : Chain) (plan : Plan) (started : Nat) (s : Session) (sc : Scope)
    (hb : ∀ b ∈ body, b.Within Action.KeepsFailure) (hs : s.isFailed = true) :
    All (fun flow => flow.session.isFailed = true)
      (loopPasses (n + 1) g counter body plan started s sc) := by
  simp only [loopPasses, all_bind, all_stopped, if_true, Bool.false_eq_true, if_false,
    all_leaveNow]
  refine ⟨Session.isFailed_leave_of hs, All.imp (All.true _) fun r _ => ?_⟩
  split
  · simp only [all_finish]; exact Session.isFailed_leave_of hs
  · simp only [all_bind, all_fail, all_finish]; exact Session.isFailed_leave_of rfl
  · simp only [all_bind]
    -- binding the loop's element keeps the status
    have helem : (bindElement plan g (s.iterationOf counter) s).isFailed = true := by
      rw [Session.isFailed_eq_of_status (bindElement_bookkeeping ..).1]; exact hs
    refine All.imp (ih.chain body _ sc) fun flow hflow => ?_
    have hfailed := hflow hb helem
    cases flow with
    | next s' =>
      simp only
      split
      · simp only [all_bind, all_fail, all_finish]; exact Session.isFailed_leave_of rfl
      · next s'' hinc =>
        have h'' : s''.isFailed = true := by
          rw [Session.isFailed_eq_of_status (Session.incrementCounter_ok hinc).2.1]; exact hfailed
        simp only [all_bind, all_pass]
        exact (ih.passes g counter body plan started s'' sc).imp fun _ h => h hb h''
    | interrupt s' id c =>
      simp only [all_ite, all_finish, all_passOn, Flow.mapSession_interrupt]
      exact ⟨fun _ => Session.isFailed_leave_of hfailed, fun _ => Session.isFailed_leave_of hfailed⟩
    | exit s' => simp only [all_passOn]; exact Session.isFailed_leave_of hfailed
    | stopped s' => simp only [all_passOn]; exact Session.isFailed_leave_of hfailed

/-- Failure survives every run of an action that keeps it, for every step budget. -/
theorem keeps_holds : ∀ n, keepsPost.Holds n :=
  keepsPost.holds fun _ ih =>
    { chain := fun ch s sc =>
        All.under fun hch => All.under fun hs => keeps_chain_succ ih ch s sc hch hs
      action := fun a s sc =>
        All.under fun ha => All.under fun hs => keeps_action_succ ih a s sc ha hs
      loop := fun g counter exitAsap body s sc =>
        All.under fun hb => All.under fun hs => keeps_loop_succ ih g counter exitAsap body s sc hb hs
      passes := fun g counter body plan started s sc =>
        All.under fun hb => All.under fun hs =>
          keeps_passes_succ ih g counter body plan started s sc hb hs
      retry := fun _ _ _ _ _ => All.true _
      attempts := fun _ _ _ _ _ _ => All.true _ }

end Runner

/-- A failed session stays failed through every action whose effects keep a
failure and that holds no retry block, whatever flow the action ends with: on
to the next action, an exit, a stop, or an interrupt for an enclosing block. -/
theorem failure_survives_without_retry (n : Nat) (a : Action) (s : Session) (sc : Scope)
    (ha : a.Within Action.KeepsFailure) (hs : s.isFailed = true) :
    All (fun flow => flow.session.isFailed = true) (runAction n a s sc) :=
  ((keeps_holds n).action a s sc).imp fun _ h => h ha hs

/-- A failed session through an `exitBlockOnFail` whose body exits at once. -/
theorem failure_survives_exit_block :
    (Action.exitBlockOnFail [.exit .always]).Within Action.KeepsFailure ∧
      (Session.new "user" 0).markFailed.isFailed = true ∧
      All (fun flow => flow.session.isFailed = true)
        (runAction 5 (.exitBlockOnFail [.exit .always]) (Session.new "user" 0).markFailed []) := by
  have ha : (Action.exitBlockOnFail [.exit .always]).Within Action.KeepsFailure :=
    Action.Within.of_chain trivial rfl (Action.Within.singleton (.of_leaf trivial rfl))
  exact ⟨ha, rfl, failure_survives_without_retry 5 _ _ [] ha rfl⟩

/-- A retry block entered with a failed session and left through an exit comes
out cleared: the attempt started from a cleared session, and an exit ends the
block without restoring the status from before it. -/
theorem retry_exit_clears_failure :
    ¬ All (fun flow => flow.session.isFailed = true)
      (runAction 10 (.tryMax (.const 1) "attempt" [.exit .always])
        (Session.new "user" 0).markFailed []) := by
  intro h
  -- the run where the clock reads 0 and no stop is signalled
  have h' : _ = true := h 0 none 0 0
  revert h'
  decide

/-! ## Failure interrupts carry a failed session -/

/-- A failure interrupt carries a failed session. -/
def Flow.CarriesFailure : Flow → Prop
  | .interrupt s _ .failure => s.isFailed = true
  | _ => True

namespace Flow

@[simp]
theorem carriesFailure_leave (flow : Flow) (counter : String) (t : Nat) :
    (flow.mapSession (·.leave counter t)).CarriesFailure ↔ flow.CarriesFailure := by
  cases flow with
  | interrupt s id c => cases c <;> simp [CarriesFailure, Session.isFailed_leave]
  | next s => exact Iff.rfl
  | exit s => exact Iff.rfl
  | stopped s => exact Iff.rfl

theorem Leaf.carriesFailure {s : Session} {flow : Flow} (h : flow.Leaf s) : flow.CarriesFailure := by
  obtain ⟨s', -, rfl | rfl⟩ := h <;> trivial

end Flow

namespace Runner

theorem Checked.carriesFailure {s : Session} {sc : Scope} {flow : Flow}
    (h : Checked s sc (.error flow)) : flow.CarriesFailure := by
  rcases h with rfl | ⟨f, -, -, s', -⟩ | ⟨hfl, f, -, rfl⟩
  · trivial
  · trivial
  · exact hfl

/-- Every flow of the six functions carries a failure interrupt's failed session. -/
def carriesPost : Post where
  chain _ _ _ := Flow.CarriesFailure
  action _ _ _ := Flow.CarriesFailure
  loop _ _ _ _ _ _ := Flow.CarriesFailure
  passes _ _ _ _ _ _ _ := Flow.CarriesFailure
  retry _ _ _ _ _ := Flow.CarriesFailure
  attempts _ _ _ _ _ _ := Flow.CarriesFailure

variable {n : Nat}

theorem carries_chain_succ (ih : carriesPost.Holds n) (ch : Chain) (s : Session) (sc : Scope) :
    All Flow.CarriesFailure (runChain (n + 1) ch s sc) := by
  cases ch with
  | nil => trivial
  | cons a rest =>
    simp only [runChain, all_bind]
    refine All.imp (checkpoint_checked s sc) fun r hr => ?_
    cases r with
    | error flow => exact hr.carriesFailure
    | ok s' =>
      simp only [all_bind]
      refine All.imp (ih.action a s' sc) fun flow (hflow : flow.CarriesFailure) => ?_
      cases flow with
      | next s'' => exact ih.chain rest s'' sc
      | interrupt => exact hflow
      | exit => exact hflow
      | stopped => exact hflow

theorem carries_action_succ (ih : carriesPost.Holds n) (a : Action) (s : Session) (sc : Scope) :
    All Flow.CarriesFailure (runAction (n + 1) a s sc) := by
  cases a with
  | exec e =>
    simp only [runAction, all_bind]
    exact All.imp (All.true _) fun _ _ => trivial
  | branch c t e => exact all_branch (fun ch _ => ih.chain ch s sc) trivial trivial
  | switch key cs e => exact all_switch (fun ch _ => ih.chain ch s sc) trivial trivial
  | randomSwitch cs e => exact all_randomSwitch (fun ch _ => ih.chain ch s sc) trivial
  | loop g counter exitAsap body => exact ih.loop g counter exitAsap body s sc
  | tryMax attempts counter body => exact ih.retry attempts counter body s sc
  | exitBlockOnFail body =>
    simp only [runAction, all_bind]
    refine All.imp (ih.chain body s _) fun flow (hflow : flow.CarriesFailure) => ?_
    cases flow with
    | interrupt s' id c =>
      simp only [all_ite, all_pure]
      exact ⟨fun _ => trivial, fun _ => hflow⟩
    | next s' => trivial
    | exit s' => trivial
    | stopped s' => trivial
  | pace interval counter => exact (pace_leaf interval counter s).imp fun _ h => h.carriesFailure
  | pause interval => exact (pause_leaf interval s).imp fun _ h => h.carriesFailure
  | feed source name => exact (feed_leaf source s).imp fun _ h => h.carriesFailure
  | exit c => exact all_exit (by cases sc <;> trivial) trivial trivial
  | stopInjector m => exact (stopInjector_leaf m s).imp fun _ h => h.carriesFailure

theorem carries_loop_succ (ih : carriesPost.Holds n) (g : LoopGuard) (counter : String)
    (exitAsap : Bool) (body : Chain) (s : Session) (sc : Scope) :
    All Flow.CarriesFailure (runLoop (n + 1) g counter exitAsap body s sc) := by
  simp only [runLoop, all_bind, all_clock]
  intro started
  split
  · simp only [all_failNext]; trivial
  · split
    · simp only [all_bind, all_fail, all_finish]; exact fun _ => trivial
    · exact ih.passes g counter body _ started _ _

theorem carries_passes_succ (ih : carriesPost.Holds n) (g : LoopGuard) (counter : String)
    (body : Chain) (plan : Plan) (started : Nat) (s : Session) (sc : Scope) :
    All Flow.CarriesFailure (loopPasses (n + 1) g counter body plan started s sc) := by
  simp only [loopPasses, all_bind, all_stopped, if_true, Bool.false_eq_true, if_false,
    all_leaveNow]
  refine ⟨fun _ => trivial, All.imp (All.true _) fun r _ => ?_⟩
  split
  · simp only [all_finish]; exact fun _ => trivial
  · simp only [all_bind, all_fail, all_finish]; exact fun _ => trivial
  · simp only [all_bind]
    refine All.imp (ih.chain body _ sc) fun flow (hflow : flow.CarriesFailure) => ?_
    cases flow with
    | next s' =>
      simp only
      split
      · simp only [all_bind, all_fail, all_finish]; exact fun _ => trivial
      · simp only [all_bind, all_pass]
        exact ih.passes g counter body plan started _ sc
    | interrupt s' id c =>
      simp only [all_ite, all_finish, all_passOn, Flow.carriesFailure_leave]
      exact ⟨fun _ _ => trivial, fun _ _ => hflow⟩
    | exit s' => simp only [all_passOn]; exact fun _ => trivial
    | stopped s' => simp only [all_passOn]; exact fun _ => trivial

theorem carries_retry_succ (ih : carriesPost.Holds n) (attempts : Source UInt64) (counter : String)
    (body : Chain) (s : Session) (sc : Scope) :
    All Flow.CarriesFailure (runTry (n + 1) attempts counter body s sc) := by
  simp only [runTry]
  split
  · simp only [all_failNext]; trivial
  · split
    · simp only [all_failNext]; trivial
    · simp only [all_bind, all_clock]
      intro now
      split
      · simp only [all_failNext]; trivial
      · exact ih.attempts _ _ counter body _ _

theorem carries_attempts_succ (ih : carriesPost.Holds n) (max : Nat) (prior : Status)
    (counter : String) (body : Chain) (s : Session) (sc : Scope) :
    All Flow.CarriesFailure (attempt (n + 1) max prior counter body s sc) := by
  simp only [attempt, all_bind]
  refine All.imp (ih.chain body _ sc) fun flow (hflow : flow.CarriesFailure) => ?_
  split
  · -- a flow the block does not catch is passed on as it came
    next flow' hpass =>
    obtain ⟨heq, -⟩ := attempt_result_error hpass
    subst heq
    simp only [all_passOn, Flow.carriesFailure_leave]
    exact fun _ => hflow
  · simp only [all_finish]; exact fun _ => trivial
  · split
    · simp only [all_finish]; exact fun _ => trivial
    · split
      · simp only [all_bind, all_emit, all_finish]; exact fun _ => trivial
      · simp only [all_bind, all_emit]
        split
        · simp only [all_bind, all_fail, all_finish]; exact fun _ => trivial
        · next s'' _ =>
          simp only [all_bind, all_stopped, if_true, Bool.false_eq_true, if_false, all_passOn]
          exact ⟨fun _ => trivial, ih.attempts max prior counter body s'' sc⟩

/-- Every failure interrupt of every run carries a failed session, for every step budget. -/
theorem carries_holds : ∀ n, carriesPost.Holds n :=
  carriesPost.holds fun _ ih =>
    { chain := carries_chain_succ ih
      action := carries_action_succ ih
      loop := carries_loop_succ ih
      passes := carries_passes_succ ih
      retry := carries_retry_succ ih
      attempts := carries_attempts_succ ih }

/-! ## The checkpoint routes a failure -/

variable {s : Session} {sc : Scope} {f : Frame}

/-- A failed session inside a block that catches failures never reaches the
next action: running the chain is the checkpoint's verdict alone, whatever the
chain holds. -/
theorem runChain_caught_eq (hs : s.isFailed = true) (hc : sc.catcher? = some f)
    (a b : Action) (rest rest' : Chain) :
    runChain (n + 1) (a :: rest) s sc = runChain (n + 1) (b :: rest') s sc := by
  simp only [runChain]
  apply Prog.bind_congr
  refine (checkpoint_checked s sc).imp fun r hr => ?_
  cases r with
  | error flow => rfl
  | ok s' => cases hc.symm.trans (hr.2 hs)

/-- That verdict hands the session to the innermost frame catching failures,
unless the run stops or a guard lapses first. -/
theorem runChain_caught (hs : s.isFailed = true) (hc : sc.catcher? = some f) (a : Action)
    (rest : Chain) :
    All (fun flow => flow = .stopped s ∨ flow.GuardLapse s sc ∨ flow = .interrupt s f.id .failure)
      (runChain (n + 1) (a :: rest) s sc) := by
  simp only [runChain, all_bind]
  refine (checkpoint_checked s sc).imp fun r hr => ?_
  cases r with
  | error flow =>
    rcases hr with h | h | ⟨-, f', hc', rfl⟩
    · exact Or.inl h
    · exact Or.inr (Or.inl h)
    · cases hc.symm.trans hc'
      exact Or.inr (Or.inr rfl)
  | ok s' => cases hc.symm.trans (hr.2 hs)

/-- A session that is not failed, or that no frame would catch, passes the
checkpoint unchanged, unless the run stops or a guard lapses. -/
theorem checkpoint_passes (h : s.isFailed = false ∨ sc.catcher? = none) :
    All (fun r => r = .ok s ∨ r = .error (.stopped s) ∨
      ∃ flow, r = .error flow ∧ flow.GuardLapse s sc) (checkpoint s sc) := by
  refine (checkpoint_checked s sc).imp fun r hr => ?_
  cases r with
  | ok s' => exact Or.inl (congrArg Except.ok hr.1)
  | error flow =>
    rcases hr with rfl | hg | ⟨hfl, f, hc, -⟩
    · exact Or.inr (Or.inl rfl)
    · exact Or.inr (Or.inr ⟨flow, rfl, hg⟩)
    · rcases h with h | h
      · cases hfl.symm.trans h
      · cases h.symm.trans hc

/-- The frame an `exitBlockOnFail` pushes, numbered by the depth of the scope,
is the innermost frame inside the block and the innermost one catching failures. -/
theorem exitOnFail_frame (hsc : sc.Nested) :
    (sc.push .exitOnFail).head?.map (·.id) = some sc.length ∧
      (sc.push .exitOnFail).catcher? = some ⟨sc.length, .exitOnFail⟩ := by
  rw [Scope.push_eq_cons, hsc.push_id, Scope.catcher?_cons]
  exact ⟨rfl, rfl⟩

/-- A lapsed guard inside an `exitBlockOnFail` names a loop around the block,
never the block's own frame, and is a lapsed guard of the scope around it. -/
theorem GuardLapse.outside_exitOnFail (hsc : sc.Nested) {flow : Flow}
    (h : flow.GuardLapse s (sc.push .exitOnFail)) :
    ∃ s' id, flow = .interrupt s' id .guard ∧ id ≠ sc.length ∧ flow.GuardLapse s sc := by
  obtain ⟨g, hg, hk, s', hs'⟩ := h
  have hg' : g ∈ sc := by
    rw [Scope.push_eq_cons, hsc.push_id] at hg
    rcases List.mem_cons.mp hg with rfl | hg'
    · obtain ⟨_, _, _, hk⟩ := hk
      cases hk
    · exact hg'
  exact ⟨s', g.id, rfl, Nat.ne_of_lt (hsc.id_lt hg'), .intro g hg' hk s' hs'⟩

/-- An `exitBlockOnFail` reached by a failed session runs none of its body and
goes on after itself with the session still failed, unless the run stops or a
guard of a loop around it lapses. -/
theorem exitBlockOnFail_failed (hsc : sc.Nested) (hs : s.isFailed = true) (a : Action)
    (rest : Chain) :
    All (fun flow => flow = .next s ∨ flow = .stopped s ∨ flow.GuardLapse s sc)
      (runAction (n + 2) (.exitBlockOnFail (a :: rest)) s sc) := by
  -- the block's own frame, numbered by the depth of the scope, catches the failure
  obtain ⟨hhead, hc⟩ := exitOnFail_frame hsc
  simp only [runAction, all_bind]
  refine (runChain_caught hs hc a rest).imp fun flow hflow => ?_
  rcases hflow with rfl | hg | rfl
  · exact Or.inr (Or.inl rfl)
  · obtain ⟨s', id, rfl, hid, hg⟩ := GuardLapse.outside_exitOnFail hsc hg
    simp only [all_ite, all_pure, hhead, Option.some.injEq]
    exact ⟨fun h => absurd h hid, fun _ => Or.inr (Or.inr hg)⟩
  · simp [hhead]

/-- A run of a chain whose first actions went on as a known run goes on from
their session as a run of the rest, with the step budget they left. -/
theorem runs_chain_append {rest : Chain} {tr : List Exchange} {flow : Flow} :
    ∀ {pre : Chain} {n : Nat} {s s' : Session} {tr₁ : List Exchange},
      Runs (runChain n pre s sc) tr₁ (.next s') →
      Runs (runChain n (pre ++ rest) s sc) (tr₁ ++ tr) flow →
      Runs (runChain (n - pre.length) rest s' sc) tr flow
  | [], 0, _, _, _, h₁, _ => by cases h₁
  | [], n + 1, s, s', tr₁, h₁, h₂ => by
    obtain ⟨rfl, heq⟩ := runs_pure.mp h₁
    cases heq
    exact h₂
  | _ :: _, 0, _, _, _, h₁, _ => by cases h₁
  | a :: pre, n + 1, s, s', tr₁, h₁, h₂ => by
    rw [runChain] at h₁
    rw [List.cons_append, runChain] at h₂
    obtain ⟨trc, r, tr₂, rfl, hc, h₁⟩ := Runs.of_bind h₁
    rw [List.append_assoc] at h₂
    have h₂ := Runs.of_bind_of_runs hc h₂
    cases r with
    | error flow' =>
      -- a checkpoint never lets a chain go on through an error
      obtain ⟨rfl, rfl⟩ := runs_pure.mp h₁
      rcases (checkpoint_checked s sc).of_runs hc with h | h | ⟨-, f, -, h⟩ <;> cases h
    | ok s₁ =>
      obtain ⟨tra, fa, tr₃, rfl, ha, h₁⟩ := Runs.of_bind h₁
      rw [List.append_assoc] at h₂
      have h₂ := Runs.of_bind_of_runs ha h₂
      cases fa with
      | next s₂ =>
        rw [List.length_cons, Nat.add_sub_add_right]
        exact runs_chain_append h₁ h₂
      | interrupt | exit | stopped => cases (runs_pure.mp h₁).2

/-- An `exitBlockOnFail` stops at the first boundary after its session fails:
once the actions of its body run so far went on with a failed session, the
block goes on after itself with that session, unless the run stops or a guard
of a loop around it lapses there, whatever actions follow. -/
theorem exitBlockOnFail_stops_after_failure (hsc : sc.Nested) {pre : Chain} {b : Action}
    {rest : Chain} {s₀ : Session} {tr₁ tr : List Exchange} {flow : Flow}
    (hpre : Runs (runChain n pre s₀ (sc.push .exitOnFail)) tr₁ (.next s)) (hs : s.isFailed = true)
    (h : Runs (runAction (n + 1) (.exitBlockOnFail (pre ++ b :: rest)) s₀ sc) (tr₁ ++ tr) flow) :
    flow = .next s ∨ flow = .stopped s ∨ flow.GuardLapse s sc := by
  obtain ⟨hhead, hc⟩ := exitOnFail_frame hsc
  simp only [runAction] at h
  obtain ⟨trb, bflow, trc, htr, hb, hk⟩ := Runs.of_bind h
  -- the block answers its body's flow with no request of its own
  have htrc : trc = [] := by
    cases bflow with
    | interrupt s' id c =>
      simp only at hk
      split at hk <;> exact (runs_pure.mp hk).1
    | next | exit | stopped => exact (runs_pure.mp hk).1
  rw [htrc, List.append_nil] at htr
  rw [← htr] at hb
  have hbody := runs_chain_append hpre hb
  cases hm : n - pre.length with
  | zero => rw [hm] at hbody; cases hbody
  | succ m =>
    rw [hm] at hbody
    rcases (runChain_caught hs hc b rest).of_runs hbody with rfl | hg | rfl
    · exact .inr (.inl (runs_pure.mp hk).2)
    · obtain ⟨s', id, rfl, hid, hg⟩ := GuardLapse.outside_exitOnFail hsc hg
      simp only [hhead, Option.some.injEq, hid, if_false] at hk
      exact .inr (.inr ((runs_pure.mp hk).2 ▸ hg))
    · simp only [hhead, if_true] at hk
      exact .inl (runs_pure.mp hk).2

end Runner

/-- How a failure is routed. A failed session inside a block that catches
failures never reaches its next action: the checkpoint alone decides, and it
hands the session to the innermost catching frame unless the run stops or a
lapsed guard comes first. A session that is not failed, or outside every
catching block, passes the checkpoint unchanged, stop and guards apart. Every
failure interrupt carries its failed session, so an `exitBlockOnFail` stops at
the first boundary after its session fails and goes on after itself with it:
reached by a failed session it runs none of its body, and once the actions of
its body run so far went on failed it runs none of the actions after them. -/
theorem failures_reach_innermost_catcher :
    (∀ (n : Nat) (s : Session) (sc : Scope) (f : Frame), s.isFailed = true →
      sc.catcher? = some f → ∀ a rest,
        (∀ b rest', runChain (n + 1) (a :: rest) s sc = runChain (n + 1) (b :: rest') s sc) ∧
        All (fun flow => flow = .stopped s ∨ flow.GuardLapse s sc ∨
          flow = .interrupt s f.id .failure) (runChain (n + 1) (a :: rest) s sc)) ∧
    (∀ (s : Session) (sc : Scope), (s.isFailed = false ∨ sc.catcher? = none) →
      All (fun r => r = .ok s ∨ r = .error (.stopped s) ∨
        ∃ flow, r = .error flow ∧ flow.GuardLapse s sc) (checkpoint s sc)) ∧
    (∀ n ch s sc, All Flow.CarriesFailure (runChain n ch s sc)) ∧
    (∀ (n : Nat) (s : Session) (sc : Scope) a rest, sc.Nested → s.isFailed = true →
      All (fun flow => flow = .next s ∨ flow = .stopped s ∨ flow.GuardLapse s sc)
        (runAction (n + 2) (.exitBlockOnFail (a :: rest)) s sc)) ∧
    (∀ (n : Nat) (s₀ s : Session) (sc : Scope) (pre : Chain) (b : Action) (rest : Chain)
      (tr₁ tr : List Exchange) (flow : Flow), sc.Nested →
      Runs (runChain n pre s₀ (sc.push .exitOnFail)) tr₁ (.next s) → s.isFailed = true →
      Runs (runAction (n + 1) (.exitBlockOnFail (pre ++ b :: rest)) s₀ sc) (tr₁ ++ tr) flow →
      flow = .next s ∨ flow = .stopped s ∨ flow.GuardLapse s sc) :=
  ⟨fun _ _ _ _ hs hc a rest =>
      ⟨fun b rest' => runChain_caught_eq hs hc a b rest rest', runChain_caught hs hc a rest⟩,
    fun _ _ h => checkpoint_passes h,
    fun n ch s sc => (carries_holds n).chain ch s sc,
    fun _ _ _ a rest hsc hs => exitBlockOnFail_failed hsc hs a rest,
    fun _ _ _ _ _ _ _ _ _ _ hsc hpre hs h => exitBlockOnFail_stops_after_failure hsc hpre hs h⟩

/-- An `exitBlockOnFail` entered failed, at the top level, goes on after itself. -/
theorem failed_exit_block_goes_on :
    Scope.Nested [] ∧ (Session.new "user" 0).markFailed.isFailed = true ∧
      All (fun flow => flow = .next (Session.new "user" 0).markFailed ∨
          flow = .stopped (Session.new "user" 0).markFailed ∨
          flow.GuardLapse (Session.new "user" 0).markFailed [])
        (runAction 2 (.exitBlockOnFail [.exit .always]) (Session.new "user" 0).markFailed []) :=
  ⟨Scope.Nested.nil, rfl,
    failures_reach_innermost_catcher.2.2.2.1 0 _ [] (.exit .always) [] Scope.Nested.nil rfl⟩

end LoadScenario
