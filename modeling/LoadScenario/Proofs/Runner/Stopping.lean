import LoadScenario.Proofs.Prog.Stopping
import LoadScenario.Proofs.Runner.Calls

/-!
# Stop is final

A user finds the stop signal raised at a checkpoint before an action, at the
head of a loop's pass, before another attempt of a retry block, or when it
cuts short the wait of a pace or a pause. This module shows that from then on
the user starts no further action: it only reads the clock and logs, and its
run ends stopped (`runUser_stops`). The same holds once it fires a stop
injector. The effects of the user's chain are asked to be blind to the signal
(`Action.StopBlind`): they never read it, and raise it for no injector.

Each of the runner's six functions is shown to stop for good (`Runner.Stops`),
by induction on the step budget: a checkpoint or a wait that finds the signal
raised ends with the stopped flow, and every block passes a stopped flow on,
its counter left, and never catches it. Actions start only right after a
checkpoint that read the signal and found it unset
(`Calls.action_after_checkpoint`), and only the first raise of the signal
counts (`StopSignal.raiseAll_fresh`).
-/

namespace LoadScenario

/-- A reason only a stop injector raises the signal for. -/
def StopReason.IsInjector : StopReason → Prop
  | .injector _ => True
  | _ => False

/-- The flow of a run that stopped. -/
def Flow.Stopped : Flow → Prop
  | .stopped _ => True
  | _ => False

/-- An effect that never looks at the stop signal and fires no stop injector. -/
def Effect.StopBlind (e : Effect) : Prop :=
  ∀ s, Prog.Blind StopReason.IsInjector (e.apply s)

/-- An action whose own effect, if it has one, is blind to the stop signal. -/
def Action.StopBlind : Action → Prop
  | .exec e => e.StopBlind
  | _ => True

namespace Runner

open Prog

variable {s : Session} {sc : Scope} {T : StopReason → Prop} {β : Type} {Q : β → Prop}

/-! ### Steps blind to the signal -/

@[simp] theorem watch_fail_bind {action error : String} {g : Session → Prog β} :
    Watch T Q (fail s action error >>= g) ↔ Watch T Q (g s.markFailed) := Iff.rfl

@[simp] theorem watch_failNext {P : Flow → Prop} {action error : String} :
    Watch T P (failNext s action error) := trivial

@[simp] theorem watch_finish {P : Flow → Prop} {counter : String} :
    Watch T P (finish s counter) := fun _ => trivial

@[simp] theorem watch_passOn {P : Flow → Prop} {flow : Flow} {counter : String} :
    Watch T P (passOn flow counter) := fun _ => trivial

/-- A stopped flow leaves a block stopped, its counter left. -/
theorem halts_passOn {counter : String} : Halts Flow.Stopped (passOn (.stopped s) counter) :=
  fun _ => trivial

/-- The checkpoint reads the signal first; found raised, it stops at once. -/
theorem checkpoint_watch (s : Session) (sc : Scope) :
    Watch StopReason.IsInjector (· = .error (.stopped s)) (checkpoint s sc) := by
  simp only [checkpoint, watch_stopped_bind, if_true, Bool.false_eq_true, if_false, halts_pure,
    and_true]
  split
  · trivial
  · simp only [watch_clock_bind]
    intro now
    split
    · split
      · simp
      · trivial
    · split
      · split <;> trivial
      · trivial

/-- A wait reads the signal, then sleeps against it; either way a raised signal
ends it with `false`. -/
theorem wait_watch (deadline : Nat) : Watch T (· = false) (wait deadline) := by
  simp [wait]

/-! ### Actions that hold no chain -/

/-- Drawing an interval only draws. -/
theorem Interval.draw_blind (i : Interval) (s : Session) : Blind T (i.draw s) := by
  unfold Interval.draw
  split
  · trivial
  · split
    · trivial
    · split
      · trivial
      · split
        · trivial
        · intro x
          show Blind T (Runner.clampDraw _ _ x >>= fun d => Pure.pure (Except.ok d))
          unfold Runner.clampDraw
          split
          · split <;> trivial
          · trivial

/-- A pace waits against the signal, and stops if the wait found it raised. -/
theorem pace_watch (interval : Interval) (counter : String) (s : Session) :
    Watch T Flow.Stopped (pace interval counter s) := by
  unfold pace
  refine Watch.bind_blind (Interval.draw_blind interval s) fun r => ?_
  split
  · exact watch_failNext
  · simp only [watch_clock_bind]
    intro now
    split
    · split <;> trivial
    · -- the wait, raced against the signal, may find it raised: then the pace stops
      refine Watch.bind (P := (· = false)) ?_ (fun go => ?_) (fun go hgo => ?_)
      · split
        · exact wait_watch _
        · simp
      · split
        · split <;> trivial
        · trivial
      · subst hgo
        simp [Flow.Stopped]

/-- A pause waits against the signal, and stops if the wait found it raised. -/
theorem pause_watch (interval : Interval) (s : Session) :
    Watch T Flow.Stopped (pause interval s) := by
  unfold pause
  refine Watch.bind_blind (Interval.draw_blind interval s) fun r => ?_
  split
  · exact watch_failNext
  · simp only [watch_clock_bind]
    intro now
    split
    · exact watch_failNext
    · refine Watch.bind (wait_watch _) (fun go => ?_) (fun go hgo => ?_)
      · split <;> trivial
      · subst hgo
        simp [Flow.Stopped]

/-- A feed only pulls a record. -/
theorem feed_watch (source : String) (s : Session) : Watch T Flow.Stopped (feed source s) := by
  simp only [feed, watch_nextRecord_bind]
  intro r
  split <;> simp

/-- A stop injector raises the signal for an injector reason, and stops. -/
theorem stopInjector_watch (message : Source String) (s : Session) :
    Watch StopReason.IsInjector Flow.Stopped (stopInjector message s) := by
  simp [stopInjector, Flow.Stopped]

/-! ### Every function of the runner -/

/-- With step budget `n`, each of the runner's six functions, on code whose
effects are blind to the signal, stops for good once it finds the signal
raised or fires a stop injector. -/
structure Stops (n : Nat) : Prop where
  chain : ∀ ch s sc, (∀ b ∈ ch, b.Within Action.StopBlind) →
    Watch StopReason.IsInjector Flow.Stopped (runChain n ch s sc)
  action : ∀ a s sc, a.Within Action.StopBlind →
    Watch StopReason.IsInjector Flow.Stopped (runAction n a s sc)
  loop : ∀ g counter exitAsap body s sc, (∀ b ∈ body, b.Within Action.StopBlind) →
    Watch StopReason.IsInjector Flow.Stopped (runLoop n g counter exitAsap body s sc)
  passes : ∀ g counter body plan started s sc, (∀ b ∈ body, b.Within Action.StopBlind) →
    Watch StopReason.IsInjector Flow.Stopped (loopPasses n g counter body plan started s sc)
  retry : ∀ attempts counter body s sc, (∀ b ∈ body, b.Within Action.StopBlind) →
    Watch StopReason.IsInjector Flow.Stopped (runTry n attempts counter body s sc)
  attempts : ∀ max prior counter body s sc, (∀ b ∈ body, b.Within Action.StopBlind) →
    Watch StopReason.IsInjector Flow.Stopped (attempt n max prior counter body s sc)

variable {n : Nat}

theorem stops_chain_succ (ih : Stops n) (ch : Chain) (s : Session) (sc : Scope) 
    (hch : ∀ b ∈ ch, b.Within Action.StopBlind) :
    Watch StopReason.IsInjector Flow.Stopped (runChain (n + 1) ch s sc) := by
  cases ch with
  | nil => trivial
  | cons a rest =>
    -- the checkpoint that finds the signal raised ends the chain stopped
    refine Watch.bind (checkpoint_watch s sc) (fun r => ?_) (fun r hr => by subst hr; trivial)
    cases r with
    | error flow => trivial
    | ok s' =>
      -- an action that stops ends the chain stopped
      refine Watch.bind (ih.action a s' sc (hch a List.mem_cons_self)) (fun flow => ?_)
        (fun flow hflow => ?_)
      · cases flow with
        | next s'' => exact ih.chain rest s'' sc fun b hb => hch b (List.mem_cons_of_mem _ hb)
        | _ => trivial
      · cases flow with
        | stopped s'' => trivial
        | _ => exact hflow.elim

theorem stops_action_succ (ih : Stops n) (a : Action) (s : Session) (sc : Scope)
    (ha : a.Within Action.StopBlind) :
    Watch StopReason.IsInjector Flow.Stopped (runAction (n + 1) a s sc) := by
  -- every chain the action runs is one of its own, so its effects are blind too
  have chain : ∀ ch ∈ a.children, ∀ sc',
      Watch StopReason.IsInjector Flow.Stopped (runChain n ch s sc') :=
    fun ch hch sc' => ih.chain ch s sc' (ha.chain hch)
  cases a with
  | exec e =>
    have he : e.StopBlind := ha.self
    exact Watch.bind_blind (he s) fun _ => trivial
  | branch c t e =>
    simp only [runAction]
    split
    · exact chain t (Action.mem_children_branch_then c t e) sc
    · split
      · next _ ch => exact chain ch (Action.mem_children_branch_else c t _ rfl) sc
      · trivial
    · exact watch_failNext
  | switch key cs e =>
    simp only [runAction]
    split
    · split
      · next ch hpick => exact chain ch (switch_choice_mem hpick) sc
      · trivial
    · exact watch_failNext
  | randomSwitch cs e =>
    simp only [runAction, watch_uniform_bind]
    intro draw
    split
    · next ch hpick => exact chain ch (randomSwitch_choice_mem hpick) sc
    · trivial
  | loop g counter exitAsap body => exact ih.loop g counter exitAsap body s sc (ha.chain List.mem_cons_self)
  | tryMax attempts counter body => exact ih.retry attempts counter body s sc (ha.chain List.mem_cons_self)
  | exitBlockOnFail body =>
    -- the block catches only the interrupts aimed at it, never a stop
    refine Watch.bind (chain body List.mem_cons_self _) (fun flow => ?_) (fun flow hflow => ?_)
    · split
      · split <;> trivial
      · trivial
    · cases flow with
      | stopped s' => trivial
      | _ => exact hflow.elim
  | pace interval counter => exact pace_watch interval counter s
  | pause interval => exact pause_watch interval s
  | feed source name => exact feed_watch source s
  | exit c =>
    simp only [runAction]
    split <;> trivial
  | stopInjector m => exact stopInjector_watch m s

/-- Whether a loop makes another pass is decided without the signal. -/
theorem proceed_blind (plan : Plan) (g : LoopGuard) (started : Nat) (s : Session) (i : Nat) :
    Blind T (proceed plan g started s i) := by
  unfold proceed
  split
  · trivial
  · trivial
  · split
    · trivial
    · exact fun _ => trivial
  · exact fun _ => trivial

theorem stops_loop_succ (ih : Stops n) (g : LoopGuard) (counter : String) (exitAsap : Bool)
    (body : Chain) (s : Session) (sc : Scope) (hb : ∀ b ∈ body, b.Within Action.StopBlind) :
    Watch StopReason.IsInjector Flow.Stopped (runLoop (n + 1) g counter exitAsap body s sc) := by
  simp only [runLoop, watch_clock_bind]
  intro started
  split
  · exact watch_failNext
  · split
    · simp
    · exact ih.passes g counter body _ started _ _ hb

theorem stops_passes_succ (ih : Stops n) (g : LoopGuard) (counter : String) (body : Chain)
    (plan : Plan) (started : Nat) (s : Session) (sc : Scope)
    (hb : ∀ b ∈ body, b.Within Action.StopBlind) :
    Watch StopReason.IsInjector Flow.Stopped (loopPasses (n + 1) g counter body plan started s sc) := by
  -- the loop head reads the signal: found raised, the loop leaves its counter and stops
  simp only [loopPasses, watch_stopped_bind, if_true, Bool.false_eq_true, if_false]
  refine ⟨Watch.bind_blind (proceed_blind plan g started s _) fun r => ?_, fun _ => trivial⟩
  split
  · exact watch_finish
  · simp
  · -- a pass that stops makes the loop leave its counter and stop
    refine Watch.bind (ih.chain body _ sc hb) (fun flow => ?_) (fun flow hflow => ?_)
    · split
      · split
        · simp
        · exact (watch_pass_bind).mpr (ih.passes g counter body plan started _ sc hb)
      · split
        · exact watch_finish
        · exact watch_passOn
      · exact watch_passOn
    · cases flow with
      | stopped s' => exact halts_passOn
      | _ => exact hflow.elim

theorem stops_retry_succ (ih : Stops n) (attempts : Source UInt64) (counter : String) (body : Chain)
    (s : Session) (sc : Scope) (hb : ∀ b ∈ body, b.Within Action.StopBlind) :
    Watch StopReason.IsInjector Flow.Stopped (runTry (n + 1) attempts counter body s sc) := by
  simp only [runTry]
  split
  · exact watch_failNext
  · split
    · exact watch_failNext
    · simp only [watch_clock_bind]
      intro now
      split
      · exact watch_failNext
      · exact ih.attempts _ _ counter body _ _ hb

theorem stops_attempts_succ (ih : Stops n) (max : Nat) (prior : Status) (counter : String)
    (body : Chain) (s : Session) (sc : Scope) (hb : ∀ b ∈ body, b.Within Action.StopBlind) :
    Watch StopReason.IsInjector Flow.Stopped (attempt (n + 1) max prior counter body s sc) := by
  simp only [attempt]
  -- an attempt that stops makes the block leave its counter and stop
  refine Watch.bind (ih.chain body _ sc hb) (fun flow => ?_) (fun flow hflow => ?_)
  · split
    · exact watch_passOn
    · exact watch_finish
    · split
      · exact watch_finish
      · split
        · simp
        · simp only [watch_emit_bind]
          split
          · simp
          · -- before another attempt, the block reads the signal
            simp only [watch_stopped_bind, if_true, Bool.false_eq_true, if_false]
            exact ⟨ih.attempts max prior counter body _ sc hb, halts_passOn⟩
  · cases flow with
    | stopped s' => exact halts_passOn
    | _ => exact hflow.elim

/-- Every function of the runner stops for good, with any step budget: each
calls the others only with one step less. -/
theorem stops_holds : ∀ n, Stops n
  | 0 => ⟨fun _ _ _ _ => trivial, fun _ _ _ _ => trivial, fun _ _ _ _ _ _ _ => trivial,
      fun _ _ _ _ _ _ _ _ => trivial, fun _ _ _ _ _ _ => trivial, fun _ _ _ _ _ _ _ => trivial⟩
  | n + 1 =>
    have ih := stops_holds n
    ⟨stops_chain_succ ih, stops_action_succ ih, stops_loop_succ ih, stops_passes_succ ih,
      stops_retry_succ ih, stops_attempts_succ ih⟩

/-- A user's run stops for good: once it finds the stop signal raised or fires a
stop injector, it only reads the clock and logs, and ends stopped. -/
theorem runUser_stops (fuel : Nat) (chain : Chain) (s : Session)
    (hch : ∀ b ∈ chain, b.Within Action.StopBlind) :
    Watch StopReason.IsInjector (fun o => o.termination = .stopped) (runUser fuel chain s) := by
  simp only [runUser, watch_emit_bind]
  refine Watch.bind ((stops_holds fuel).chain chain s [] hch) (fun flow => ?_) (fun flow hflow => ?_)
  · trivial
  · cases flow with
    | stopped s' => exact rfl
    | _ => exact hflow.elim

/-! ### Where actions start -/

/-- A checkpoint first reads the signal, and a raised signal ends it at once
with the session stopped. -/
theorem checkpoint_reads_signal (s : Session) (sc : Scope) :
    ∃ k, checkpoint s sc = .signal k ∧ ∀ r, k (some r) = .pure (.error (.stopped s)) :=
  ⟨_, rfl, fun _ => rfl⟩

/-- An action is run only by a chain, right after the checkpoint before it read
the signal and found it unset. -/
theorem Calls.action_after_checkpoint {c : Call} {n : Nat} {a : Action} {s' : Session}
    {sc : Scope} (h : Calls c (.action n a s' sc)) :
    ∃ rest s k, c = .chain (n + 1) (a :: rest) s sc ∧ checkpoint s sc = .signal k ∧
      Yields (k none) (.ok s') := by
  cases h with
  | first hc =>
    obtain ⟨k, hk, hraised⟩ := checkpoint_reads_signal _ sc
    refine ⟨_, _, k, rfl, hk, ?_⟩
    rw [hk] at hc
    cases hc with
    | signal r hr =>
      cases r with
      | none => exact hr
      | some r =>
        -- a raised signal ends the checkpoint stopped, never with a session
        rw [hraised r] at hr
        cases hr

/-- A stop injector logs, raises the signal for its resolved message (or a
text saying it could not be resolved), and stops with the session as it is. -/
theorem stopInjector_raises (n : Nat) (m : Source String) (s : Session) (sc : Scope) :
    ∃ e k, runAction (n + 1) (.stopInjector m) s sc =
      .log e (.stop (.injector (match m.resolve s with
        | .ok t => t
        | .error err => "unresolved message (" ++ err.message ++ ")")) k) ∧
      ∀ b, k b = .pure (.stopped s) :=
  ⟨_, _, rfl, fun _ => rfl⟩

end Runner

namespace StopSignal

/-- Raises the signal for each reason in turn: whether each raise was the
first, and the signal after them all. -/
def raiseAll (sig : StopSignal) : List StopReason → List Bool × StopSignal
  | [] => ([], sig)
  | r :: rs =>
    let (first, sig') := sig.raise r
    let (firsts, sig'') := sig'.raiseAll rs
    (first :: firsts, sig'')

/-- A raised signal refuses every later raise and keeps its reason. -/
theorem raise_of_isStopped {sig : StopSignal} (h : sig.isStopped = true) (r : StopReason) :
    sig.raise r = (false, sig) := by
  obtain ⟨reason⟩ := sig
  cases reason with
  | none => exact absurd h (by simp [isStopped])
  | some r' => rfl

theorem raiseAll_of_isStopped {sig : StopSignal} (h : sig.isStopped = true) (rs : List StopReason) :
    sig.raiseAll rs = (rs.map fun _ => false, sig) := by
  induction rs with
  | nil => rfl
  | cons r rs ih => simp [raiseAll, raise_of_isStopped h, ih]

/-- Of the raises of a fresh signal only the first counts, and its reason is
the one kept. -/
theorem raiseAll_fresh (r : StopReason) (rs : List StopReason) :
    ({} : StopSignal).raiseAll (r :: rs) = (true :: rs.map fun _ => false, ⟨some r⟩) := by
  have hfirst : ({} : StopSignal).raise r = (true, ⟨some r⟩) := rfl
  simp [raiseAll, hfirst, @raiseAll_of_isStopped ⟨some r⟩ rfl]

end StopSignal

open Prog Runner in
/-- Stop is final. In a user's run whose effects are blind to the stop signal,
once the run finds the signal raised (at a checkpoint, at the head of a loop's
pass, before another attempt of a retry block, or in the wait of a pace or a
pause) or fires a stop injector, it starts no further action: it only reads
the clock and logs, and ends stopped. An action starts only right after a
checkpoint that read the signal and found it unset: a checkpoint reads the
signal first and stops at once when it is raised. A stop injector raises the
signal for its resolved message, or a text saying it could not be resolved,
and stops. Of the raises of the signal only the first counts, and its reason
is kept. -/
theorem stop_is_final (fuel : Nat) (chain : Chain) (s : Session)
    (hblind : ∀ b ∈ chain, b.Within Action.StopBlind) :
    Watch StopReason.IsInjector (fun o => o.termination = .stopped) (runUser fuel chain s) ∧
    (∀ c n a s' sc, Calls c (.action n a s' sc) → ∃ rest s k,
      c = .chain (n + 1) (a :: rest) s sc ∧ checkpoint s sc = .signal k ∧ Yields (k none) (.ok s')) ∧
    (∀ s sc, ∃ k, checkpoint s sc = .signal k ∧ ∀ r, k (some r) = .pure (.error (.stopped s))) ∧
    (∀ n m s sc, ∃ e k, runAction (n + 1) (.stopInjector m) s sc =
      .log e (.stop (.injector (match m.resolve s with
        | .ok t => t
        | .error err => "unresolved message (" ++ err.message ++ ")")) k) ∧
      ∀ b, k b = .pure (.stopped s)) ∧
    (∀ r rs, ({} : StopSignal).raiseAll (r :: rs) = (true :: rs.map fun _ => false, ⟨some r⟩)) :=
  ⟨runUser_stops fuel chain s hblind, fun _ _ _ _ _ h => h.action_after_checkpoint,
    checkpoint_reads_signal, stopInjector_raises, StopSignal.raiseAll_fresh⟩

/-- A user that pauses, then fires a stop injector: its run stops for good. -/
theorem pausing_user_stops_for_good :
    (∀ b ∈ [Action.pause (.fixed (.const (Duration.ofMillis 5))), .stopInjector (.const "done")],
      b.Within Action.StopBlind) ∧
    Prog.Watch StopReason.IsInjector (fun o => o.termination = .stopped)
      (Runner.runUser 3 [.pause (.fixed (.const (Duration.ofMillis 5))), .stopInjector (.const "done")]
        (Session.new "user" 0)) := by
  -- neither action holds a chain or an effect
  have hblind : ∀ b ∈ [Action.pause (.fixed (.const (Duration.ofMillis 5))),
      .stopInjector (.const "done")], b.Within Action.StopBlind := by
    intro b hb
    simp only [List.mem_cons, List.not_mem_nil, or_false] at hb
    rcases hb with rfl | rfl
    · exact Action.Within.of_leaf trivial rfl
    · exact Action.Within.of_leaf trivial rfl
  exact ⟨hblind, (stop_is_final 3 _ _ hblind).1⟩

end LoadScenario