import LoadScenario.Proofs.Runner.Steps

/-!
# Block counters are balanced

A loop or a retry block pushes its counter on the session's stack of counters
in use when it starts, and every way out of the block, an ordinary end, an
interrupt it catches or passes on, an exit, a stop or an error, leaves the
counter: takes it off the stack and records when it finished. Nothing checks
that the pushes and the leaves pair up; this module proves they do.

`Session.Balanced s s'` says the run from `s` to `s'` gives back the stack of
`s`, and that every counter whose entry it changed lies outside that stack and
is finished. The main statement, `counters_balanced`, says every flow of every
action whose effects keep the counters is balanced against the action's
session, that leaving a counter keeps its iteration, and hence that a user
starting with no counter in use ends with none, whatever happened on the way.

Inside a block the invariant is `Session.Closes`: from a session whose stack
ends with the block's own counter, every flow of the passes or attempts comes
out with the counter left and finished and the stack below it back.
-/

namespace LoadScenario

open Prog Runner

/-! ## Balanced runs -/

/-- The counter of that name is there and its block was left. -/
def Session.CounterFinished (s : Session) (name : String) : Prop :=
  ∃ k, s.counter? name = some k ∧ k.isFinished = true

/-- A run from `s` to `s'` that gives back the stack of counters in use and
finishes every counter whose entry it changed, none of them one in use. -/
structure Session.Balanced (s s' : Session) : Prop where
  active : s'.active = s.active
  changed : ∀ name, s'.counter? name ≠ s.counter? name → name ∉ s.active ∧ s'.CounterFinished name

/-- A run inside the block with counter `c`, from `s` to `s'`: the counter is
left and finished, the stack below it is `A` again, and every other counter
whose entry changed lies outside `A` and is finished. -/
structure Session.Closes (A : List String) (c : String) (s s' : Session) : Prop where
  active : s'.active = A
  finished : s'.CounterFinished c
  changed : ∀ name, name ≠ c → s'.counter? name ≠ s.counter? name →
    name ∉ A ∧ s'.CounterFinished name

namespace Session

variable {s s' s'' : Session} {A : List String} {c : String}

namespace Balanced

theorem refl (s : Session) : s.Balanced s := ⟨rfl, fun _ h => absurd rfl h⟩

/-- A change that keeps the counters and their stack is balanced. -/
theorem of_bookkeeping (ha : s'.active = s.active) (hc : s'.counters = s.counters) :
    s.Balanced s' :=
  ⟨ha, fun name h => absurd (by simp only [counter?, hc]) h⟩

theorem trans (h1 : s.Balanced s') (h2 : s'.Balanced s'') : s.Balanced s'' := by
  refine ⟨h2.active.trans h1.active, fun name h => ?_⟩
  by_cases h21 : s''.counter? name = s'.counter? name
  · obtain ⟨hn, k, hk, hf⟩ := h1.changed name (h21 ▸ h)
    exact ⟨hn, k, h21.trans hk, hf⟩
  · obtain ⟨hn, hfin⟩ := h2.changed name h21
    exact ⟨h1.active ▸ hn, hfin⟩

/-- A counter in use is never touched by a balanced run. -/
theorem counter?_of_mem (h : s.Balanced s') {name : String} (hn : name ∈ s.active) :
    s'.counter? name = s.counter? name := by
  by_cases hne : s'.counter? name = s.counter? name
  · exact hne
  · exact absurd hn (h.changed name hne).1

end Balanced

namespace Closes

/-- Leaving the counter that ends the stack closes its block. -/
theorem of_leave (hA : s.active = A ++ [c]) (hc : (s.counter? c).isSome) (t : Nat) :
    s.Closes A c (s.leave c t) := by
  obtain ⟨hact, hcnt, hother⟩ := leave_of_mem (t := t) (show c ∈ s.active by simp [hA])
  obtain ⟨k, hk⟩ := Option.isSome_iff_exists.mp hc
  refine ⟨by rw [hact, hA, eraseLast_append_singleton], ⟨{ k with finishedAt := some t }, ?_, rfl⟩,
    fun name hne h => absurd (hother name hne) h⟩
  rw [hcnt, hk]
  rfl

/-- Only the counters of the session a block starts from matter. -/
theorem of_counters (h : s'.Closes A c s'') (hc : s'.counters = s.counters) : s.Closes A c s'' :=
  ⟨h.active, h.finished, fun name hne hch =>
    h.changed name hne (by simpa only [counter?, hc] using hch)⟩

/-- A balanced run inside the block, then the rest of it, closes the block. -/
theorem of_balanced (h : s.Balanced s') (hA : s.active = A ++ [c]) (h' : s'.Closes A c s'') :
    s.Closes A c s'' := by
  refine ⟨h'.active, h'.finished, fun name hne hch => ?_⟩
  by_cases h2 : s''.counter? name = s'.counter? name
  · obtain ⟨hn, k, hk, hf⟩ := h.changed name (h2 ▸ hch)
    exact ⟨fun hA' => hn (hA ▸ List.mem_append_left _ hA'), k, h2.trans hk, hf⟩
  · exact h'.changed name hne h2

/-- Counting a pass of the block, then the rest of it, closes the block. -/
theorem of_increment (hinc : s.incrementCounter c = .ok s') (h : s'.Closes A c s'') :
    s.Closes A c s'' :=
  ⟨h.active, h.finished, fun name hne hch =>
    h.changed name hne (by rwa [(incrementCounter_ok hinc).2.2.2 name hne])⟩

end Closes

/-- Entering a counter and closing its block is balanced. -/
theorem Balanced.of_enter {now : Nat} (h : s.enterCounter c now = .ok s')
    (h' : s'.Closes s.active c s'') : s.Balanced s'' := by
  obtain ⟨hna, -, -, hother, -⟩ := enterCounter_ok h
  refine ⟨h'.active, fun name hch => ?_⟩
  by_cases hn : name = c
  · subst hn
    exact ⟨hna, h'.finished⟩
  · exact h'.changed name hn (by rwa [hother name hn])

/-- Leaving the block's counter after a balanced run inside it closes the block. -/
theorem Balanced.closes_leave (h : s.Balanced s') (hA : s.active = A ++ [c])
    (hc : (s.counter? c).isSome) (t : Nat) : s.Closes A c (s'.leave c t) := by
  have hc' : (s'.counter? c).isSome := by
    rw [h.counter?_of_mem (show c ∈ s.active by simp [hA])]
    exact hc
  exact Closes.of_balanced h hA (Closes.of_leave (h.active.trans hA) hc' t)

end Session

open Session

/-! ## Actions that keep the counters -/

/-- An effect that leaves the counters and their stack alone. -/
def Effect.KeepsCounters (e : Effect) : Prop :=
  ∀ s : Session, All (fun s' => s'.active = s.active ∧ s'.counters = s.counters) (e.apply s)

/-- An action whose own effect, if it has one, keeps the counters. -/
def Action.KeepsCounters : Action → Prop
  | .exec e => e.KeepsCounters
  | _ => True

theorem Flow.Leaf.balanced {s : Session} {flow : Flow} (h : flow.Leaf s) :
    s.Balanced flow.session := by
  obtain ⟨s', hs', rfl | rfl⟩ := h <;> exact .of_bookkeeping hs'.bookkeeping.1 hs'.bookkeeping.2

namespace Runner

/-- A checkpoint's interrupt or stop carries the session as it is, or marked failed. -/
theorem Checked.balanced {s : Session} {sc : Scope} {flow : Flow}
    (h : Checked s sc (.error flow)) : s.Balanced flow.session := by
  rcases h with rfl | ⟨f, -, -, s', rfl | rfl⟩ | ⟨-, f, -, rfl⟩
  · exact .refl _
  · exact .refl _
  · exact .of_bookkeeping rfl rfl
  · exact .refl _

/-! ## Every run is balanced -/

/-- Chains, actions, loops and retry blocks are balanced against their
session; the passes of a loop and the attempts of a retry, which start with the
block's counter on top of the stack, close the block. -/
def balancePost : Post where
  chain ch s _ flow := (∀ b ∈ ch, b.Within Action.KeepsCounters) → s.Balanced flow.session
  action a s _ flow := a.Within Action.KeepsCounters → s.Balanced flow.session
  loop _ _ _ body s _ flow := (∀ b ∈ body, b.Within Action.KeepsCounters) →
    s.Balanced flow.session
  passes _ counter body _ _ s _ flow := (∀ b ∈ body, b.Within Action.KeepsCounters) →
    ∀ A, s.active = A ++ [counter] → (s.counter? counter).isSome →
      s.Closes A counter flow.session
  retry _ _ body s _ flow := (∀ b ∈ body, b.Within Action.KeepsCounters) →
    s.Balanced flow.session
  attempts _ _ counter body s _ flow := (∀ b ∈ body, b.Within Action.KeepsCounters) →
    ∀ A, s.active = A ++ [counter] → (s.counter? counter).isSome →
      s.Closes A counter flow.session

variable {n : Nat}

theorem balance_chain_succ (ih : balancePost.Holds n) (ch : Chain) (s : Session) (sc : Scope)
    (hch : ∀ b ∈ ch, b.Within Action.KeepsCounters) :
    All (fun flow => s.Balanced flow.session) (runChain (n + 1) ch s sc) := by
  cases ch with
  | nil => exact .refl s
  | cons a rest =>
    simp only [runChain, all_bind]
    refine All.imp (checkpoint_checked s sc) fun r hr => ?_
    cases r with
    | error flow => exact hr.balanced
    | ok s' =>
      obtain ⟨rfl, -⟩ := hr
      simp only [all_bind]
      refine All.imp (ih.action a s' sc) fun flow hflow => ?_
      have hbal := hflow (hch a List.mem_cons_self)
      cases flow with
      | next s'' =>
        have hrest : ∀ b ∈ rest, b.Within Action.KeepsCounters :=
          fun b hb => hch b (List.mem_cons_of_mem _ hb)
        exact (ih.chain rest s'' sc).imp fun _ h => hbal.trans (h hrest)
      | interrupt => exact hbal
      | exit => exact hbal
      | stopped => exact hbal

theorem balance_action_succ (ih : balancePost.Holds n) (a : Action) (s : Session) (sc : Scope)
    (ha : a.Within Action.KeepsCounters) :
    All (fun flow => s.Balanced flow.session) (runAction (n + 1) a s sc) := by
  -- every chain the action runs is one of its own, so its effects keep the counters too
  have chain : ∀ ch ∈ a.children, ∀ sc',
      All (fun flow => s.Balanced flow.session) (runChain n ch s sc') :=
    fun ch hch sc' => (ih.chain ch s sc').imp fun _ h => h (ha.chain hch)
  have failed : s.Balanced s.markFailed := .of_bookkeeping rfl rfl
  cases a with
  | exec e =>
    have he : e.KeepsCounters := ha.self
    simp only [runAction, all_bind]
    exact (he s).imp fun _ h => .of_bookkeeping h.1 h.2
  | branch c t e => exact all_branch (fun ch hch => chain ch hch sc) (.refl s) failed
  | switch key cs e => exact all_switch (fun ch hch => chain ch hch sc) (.refl s) failed
  | randomSwitch cs e => exact all_randomSwitch (fun ch hch => chain ch hch sc) (.refl s)
  | loop g counter exitAsap body =>
    exact (ih.loop g counter exitAsap body s sc).imp fun _ h => h (ha.chain List.mem_cons_self)
  | tryMax attempts counter body =>
    exact (ih.retry attempts counter body s sc).imp fun _ h => h (ha.chain List.mem_cons_self)
  | exitBlockOnFail body => exact all_exitBlockOnFail_session (chain body List.mem_cons_self _)
  | pace interval counter => exact (pace_leaf interval counter s).imp fun _ h => h.balanced
  | pause interval => exact (pause_leaf interval s).imp fun _ h => h.balanced
  | feed source name => exact (feed_leaf source s).imp fun _ h => h.balanced
  | exit c => exact all_exit (by simpa only [session_exitFlow] using Balanced.refl s) (.refl s) failed
  | stopInjector m => exact (stopInjector_leaf m s).imp fun _ h => h.balanced

theorem balance_loop_succ (ih : balancePost.Holds n) (g : LoopGuard) (counter : String)
    (exitAsap : Bool) (body : Chain) (s : Session) (sc : Scope)
    (hb : ∀ b ∈ body, b.Within Action.KeepsCounters) :
    All (fun flow => s.Balanced flow.session) (runLoop (n + 1) g counter exitAsap body s sc) := by
  simp only [runLoop, all_bind, all_clock]
  intro started
  split
  · simp only [all_failNext]; exact .of_bookkeeping rfl rfl
  · next s1 hs1 =>
    obtain ⟨-, hact, hcnt, -, -⟩ := enterCounter_ok hs1
    have hc : (s1.counter? counter).isSome := by rw [hcnt]; rfl
    split
    · simp only [all_bind, all_fail, all_finish]
      exact fun t => Balanced.of_enter hs1
        ((Closes.of_leave (s := s1.markFailed) hact hc t).of_counters rfl)
    · exact (ih.passes g counter body _ started s1 _).imp fun _ h =>
        Balanced.of_enter hs1 (h hb _ hact hc)

theorem balance_passes_succ (ih : balancePost.Holds n) (g : LoopGuard) (counter : String)
    (body : Chain) (plan : Plan) (started : Nat) (s : Session) (sc : Scope)
    (hb : ∀ b ∈ body, b.Within Action.KeepsCounters) (A : List String)
    (hA : s.active = A ++ [counter]) (hc : (s.counter? counter).isSome) :
    All (fun flow => s.Closes A counter flow.session)
      (loopPasses (n + 1) g counter body plan started s sc) := by
  -- every way out leaves the counter, from a session balanced against the pass's start
  have leave : ∀ s', s.Balanced s' → ∀ t, s.Closes A counter (s'.leave counter t) :=
    fun s' h t => h.closes_leave hA hc t
  simp only [loopPasses, all_bind, all_stopped, if_true, Bool.false_eq_true, if_false,
    all_leaveNow]
  refine ⟨leave s (.refl s), All.imp (All.true _) fun r _ => ?_⟩
  split
  · simp only [all_finish]; exact leave s (.refl s)
  · simp only [all_bind, all_fail, all_finish]; exact leave _ (.of_bookkeeping rfl rfl)
  · simp only [all_bind]
    have helem : s.Balanced (bindElement plan g (s.iterationOf counter) s) := by
      obtain ⟨-, ha, hcs⟩ := bindElement_bookkeeping plan g (s.iterationOf counter) s
      exact .of_bookkeeping ha hcs
    refine All.imp (ih.chain body _ sc) fun flow hflow => ?_
    have hbal := helem.trans (hflow hb)
    cases flow with
    | next s' =>
      simp only
      split
      · simp only [all_bind, all_fail, all_finish]
        exact leave _ (hbal.trans (.of_bookkeeping rfl rfl))
      · next s'' hinc =>
        -- the next pass starts from the counted session, still with the counter on top
        obtain ⟨hact, -, ⟨k, -, -, hk⟩, -⟩ := incrementCounter_ok hinc
        have hA'' : s''.active = A ++ [counter] := hact.trans (hbal.active.trans hA)
        simp only [all_bind, all_pass]
        refine (ih.passes g counter body plan started s'' sc).imp fun _ h => ?_
        exact Closes.of_balanced hbal hA (Closes.of_increment hinc (h hb A hA'' (by rw [hk]; rfl)))
    | interrupt s' id c =>
      simp only [all_ite, all_finish, all_passOn, Flow.mapSession_interrupt]
      exact ⟨fun _ => leave s' hbal, fun _ => leave s' hbal⟩
    | exit s' => simp only [all_passOn]; exact leave s' hbal
    | stopped s' => simp only [all_passOn]; exact leave s' hbal

theorem balance_retry_succ (ih : balancePost.Holds n) (attempts : Source UInt64)
    (counter : String) (body : Chain) (s : Session) (sc : Scope)
    (hb : ∀ b ∈ body, b.Within Action.KeepsCounters) :
    All (fun flow => s.Balanced flow.session) (runTry (n + 1) attempts counter body s sc) := by
  simp only [runTry]
  split
  · simp only [all_failNext]; exact .of_bookkeeping rfl rfl
  · split
    · simp only [all_failNext]; exact .of_bookkeeping rfl rfl
    · simp only [all_bind, all_clock]
      intro now
      split
      · simp only [all_failNext]; exact .of_bookkeeping rfl rfl
      · next max _ _ _ s1 hs1 =>
        obtain ⟨-, hact, hcnt, -, -⟩ := enterCounter_ok hs1
        exact (ih.attempts max.toNat s.status counter body s1 _).imp fun _ h =>
          Balanced.of_enter hs1 (h hb _ hact (by rw [hcnt]; rfl))

theorem balance_attempts_succ (ih : balancePost.Holds n) (max : Nat) (prior : Status)
    (counter : String) (body : Chain) (s : Session) (sc : Scope)
    (hb : ∀ b ∈ body, b.Within Action.KeepsCounters) (A : List String)
    (hA : s.active = A ++ [counter]) (hc : (s.counter? counter).isSome) :
    All (fun flow => s.Closes A counter flow.session)
      (attempt (n + 1) max prior counter body s sc) := by
  have leave : ∀ s', s.Balanced s' → ∀ t, s.Closes A counter (s'.leave counter t) :=
    fun s' h t => h.closes_leave hA hc t
  simp only [attempt, all_bind]
  -- the attempt starts from the session with its failure cleared, which keeps the counters
  have hstart : s.Balanced s.markSucceeded := .of_bookkeeping rfl rfl
  refine All.imp (ih.chain body _ sc) fun flow hflow => ?_
  have hbal : s.Balanced flow.session := hstart.trans (hflow hb)
  split
  · next flow' hpass =>
    obtain ⟨rfl, -⟩ := attempt_result_error hpass
    simp only [all_passOn, Flow.session_mapSession]
    exact leave _ hbal
  · next s' hres =>
    rw [attempt_result_session hres] at hbal
    simp only [all_finish]
    exact leave s' hbal
  · next s' hres =>
    rw [attempt_result_session hres] at hbal
    split
    · simp only [all_finish]; exact leave _ (hbal.trans (.of_bookkeeping rfl rfl))
    · split
      · simp only [all_bind, all_emit, all_finish]; exact leave s' hbal
      · simp only [all_bind, all_emit]
        split
        · simp only [all_bind, all_fail, all_finish]
          exact leave _ (hbal.trans (.of_bookkeeping rfl rfl))
        · next s'' hinc =>
          -- a retry starts from the counted session, still with the counter on top
          obtain ⟨hact, -, ⟨k, -, -, hk⟩, -⟩ := incrementCounter_ok hinc
          have hA'' : s''.active = A ++ [counter] := hact.trans (hbal.active.trans hA)
          have hc'' : (s''.counter? counter).isSome := by rw [hk]; rfl
          simp only [all_bind, all_stopped, if_true, Bool.false_eq_true, if_false, all_passOn]
          refine ⟨fun t => ?_, (ih.attempts max prior counter body s'' sc).imp fun _ h => ?_⟩
          · exact Closes.of_balanced hbal hA (Closes.of_increment hinc (Closes.of_leave hA'' hc'' t))
          · exact Closes.of_balanced hbal hA (Closes.of_increment hinc (h hb A hA'' hc''))

/-- Every run of an action whose effects keep the counters is balanced, for
every step budget. -/
theorem balance_holds : ∀ n, balancePost.Holds n :=
  balancePost.holds fun _ ih =>
    { chain := fun ch s sc => All.under fun hch => balance_chain_succ ih ch s sc hch
      action := fun a s sc => All.under fun ha => balance_action_succ ih a s sc ha
      loop := fun g counter exitAsap body s sc =>
        All.under fun hb => balance_loop_succ ih g counter exitAsap body s sc hb
      passes := fun g counter body plan started s sc =>
        All.under fun hb => All.forall fun A => All.under fun hA => All.under fun hc =>
          balance_passes_succ ih g counter body plan started s sc hb A hA hc
      retry := fun attempts counter body s sc =>
        All.under fun hb => balance_retry_succ ih attempts counter body s sc hb
      attempts := fun max prior counter body s sc =>
        All.under fun hb => All.forall fun A => All.under fun hA => All.under fun hc =>
          balance_attempts_succ ih max prior counter body s sc hb A hA hc }

end Runner

/-- Blocks leave the counters balanced. Every flow of an action whose effects
keep the counters, on to the next action, an exit, a stop or any interrupt,
carries the stack of counters in use the action started with, and every
counter the action changed is finished; leaving a counter records when it
finished and keeps its iteration; so a user that starts with no counter in use
ends with none, however its run ended. -/
theorem counters_balanced :
    (∀ (n : Nat) (a : Action) (s : Session) (sc : Scope), a.Within Action.KeepsCounters →
      All (fun flow => s.Balanced flow.session) (runAction n a s sc)) ∧
    (∀ (s : Session) (name : String) (t : Nat), name ∈ s.active →
      (s.leave name t).counter? name = (s.counter? name).map ({ · with finishedAt := some t })) ∧
    (∀ (fuel : Nat) (chain : Chain) (s : Session), s.active = [] →
      (∀ b ∈ chain, b.Within Action.KeepsCounters) →
      All (fun o => o.session.active = []) (runUser fuel chain s)) := by
  refine ⟨fun n a s sc ha => ((balance_holds n).action a s sc).imp fun _ h => h ha,
    fun s name t h => (leave_of_mem h).2.1, fun fuel chain s hs hch => ?_⟩
  simp only [runUser, all_bind, all_emit]
  refine ((balance_holds fuel).chain chain s []).imp fun flow h => ?_
  -- the outcome carries the session of the flow the chain ended with
  have hactive : flow.session.active = [] := (h hch).active.trans hs
  cases flow <;> exact hactive

/-- A loop whose body exits at once leaves the counters balanced. -/
theorem counters_balanced_after_loop_exit :
    (Action.loop (.times (.const 2)) "pass" false [.exit .always]).Within Action.KeepsCounters ∧
      All (fun flow => (Session.new "user" 0).Balanced flow.session)
        (runAction 6 (.loop (.times (.const 2)) "pass" false [.exit .always])
          (Session.new "user" 0) []) := by
  have ha : (Action.loop (.times (.const 2)) "pass" false [.exit .always]).Within
      Action.KeepsCounters :=
    Action.Within.of_chain trivial rfl (Action.Within.singleton (.of_leaf trivial rfl))
  exact ⟨ha, counters_balanced.1 6 _ _ [] ha⟩

end LoadScenario
