import LoadScenario.Proofs.Runner.Pacing
import LoadScenario.Proofs.Runner.Traced

/-!
# A pace point keeps its cadence along a run

Each entry into a pace point does to its stored deadline what `Runner.paceStep`
says, and nothing else in a run changes it, provided the run's effects keep
the pace deadlines. So along a whole run the deadline is the `Runner.cadence`
of the entries made so far: the first entry that goes on sets it a target after
its arrival, and each later one a target after the previous deadline, whatever
its arrival, so that an overrun does not shift the deadlines after it.

`Runner.PaceRun` records a run's entries into a pace point, each a call of a
pace action that the run reaches, in the order their requests come, handing
the deadline on from one to the next (`Runner.Threaded`). Each of the runner's
functions goes through the entries of the calls it makes (`PacedBelow.chain`,
`PacedBelow.action`, ... one lemma per function), and by induction on the
step budget so does every call (`paceRun_of_runs`). `pace_keeps_cadence`
reads the cadence off the entries of a chain's run.
-/

namespace LoadScenario

open Prog

namespace Runner

/-! ## Entries into a pace point, in the order a run makes them -/

/-- One entry into a pace point as a run made it: the interval and session it
was entered with, the requests it made, the flow it ended with, and the arrival
and target it went on with, if it did. -/
structure PaceEntry where
  interval : Interval
  session : Session
  trace : List Exchange
  flow : Flow
  went : Option (Nat × Nat)

/-- An entry into the pace point `p` made while running `root`: a call of a pace
action named `p` that `root` reaches, run as `Paced` describes. -/
def PaceEntry.Made (p : String) (root : Call) (e : PaceEntry) : Prop :=
  (∃ m sc, Reaches root (.action m (.pace e.interval p) e.session sc)) ∧
    Runs (pace e.interval p e.session) e.trace e.flow ∧
    Paced e.interval p e.session e.trace e.flow e.went

/-- Entries that hand the deadline of `p` on from one to the next: the first
finds `d`, each finds what the one before left, and the last leaves `d'`. -/
def Threaded (p : String) : Option Nat → List PaceEntry → Option Nat → Prop
  | d, [], d' => d' = d
  | d, e :: es, d' =>
    e.session.paceDeadline? p = d ∧ Threaded p (e.flow.session.paceDeadline? p) es d'

theorem Threaded.append {p : String} {d d' d'' : Option Nat} {es₁ es₂ : List PaceEntry}
    (h₁ : Threaded p d es₁ d') (h₂ : Threaded p d' es₂ d'') :
    Threaded p d (es₁ ++ es₂) d'' := by
  induction es₁ generalizing d with
  | nil => cases h₁; exact h₂
  | cons e es ih => exact ⟨h₁.1, ih h₁.2⟩

/-- A run that takes the deadline of `p` from `d` to `d'` through entries into
`p` that `root` makes, whose requests come in `tr` in the order of the entries. -/
def PaceRun (p : String) (root : Call) (d : Option Nat) (tr : List Exchange) (d' : Option Nat) :
    Prop :=
  ∃ es : List PaceEntry, (∀ e ∈ es, e.Made p root) ∧ (es.flatMap PaceEntry.trace).Sublist tr ∧
    Threaded p d es d'

namespace PaceRun

variable {p : String} {root c : Call} {d d' d'' : Option Nat} {tr tr₁ tr₂ : List Exchange}

/-- A run that leaves the deadline as it was needs no entry. -/
theorem of_eq (h : d' = d) : PaceRun p root d tr d' :=
  ⟨[], by simp, by simp, h⟩

theorem trans (h₁ : PaceRun p root d tr₁ d') (h₂ : PaceRun p root d' tr₂ d'') :
    PaceRun p root d (tr₁ ++ tr₂) d'' := by
  obtain ⟨es₁, hm₁, hs₁, ht₁⟩ := h₁
  obtain ⟨es₂, hm₂, hs₂, ht₂⟩ := h₂
  refine ⟨es₁ ++ es₂, fun e he => ?_, ?_, ht₁.append ht₂⟩
  · rcases List.mem_append.mp he with he | he
    · exact hm₁ e he
    · exact hm₂ e he
  · rw [List.flatMap_append]
    exact hs₁.append hs₂

/-- Requests before or after a run's own do not change what it did. -/
theorem widen (h : PaceRun p root d tr d') {tr' : List Exchange} (htr : tr.Sublist tr') :
    PaceRun p root d tr' d' :=
  let ⟨es, hm, hs, ht⟩ := h
  ⟨es, hm, hs.trans htr, ht⟩

theorem prepend (h : PaceRun p root d tr d') (tr₀ : List Exchange) :
    PaceRun p root d (tr₀ ++ tr) d' :=
  h.widen (List.sublist_append_right tr₀ tr)

theorem append (h : PaceRun p root d tr d') (tr₁ : List Exchange) :
    PaceRun p root d (tr ++ tr₁) d' :=
  h.widen (List.sublist_append_left tr tr₁)

/-- The entries of a call's run are entries of every call that calls it. -/
theorem lift (h : PaceRun p c d tr d') (hc : Calls root c) : PaceRun p root d tr d' :=
  let ⟨es, hm, hs, ht⟩ := h
  ⟨es, fun e he =>
    let ⟨⟨m, sc, hr⟩, hrun⟩ := hm e he
    ⟨⟨m, sc, Relation.ReflTransGen.head hc hr⟩, hrun⟩, hs, ht⟩

/-- An entry is a run through itself. -/
theorem entry {e : PaceEntry} (he : e.Made p root) :
    PaceRun p root (e.session.paceDeadline? p) e.trace (e.flow.session.paceDeadline? p) :=
  ⟨[e], by simpa using he, by simp, rfl, rfl⟩

end PaceRun

/-! ## What one step of the runner does to a deadline -/

section Steps

variable {p : String} {n : Nat} {s : Session} {sc : Scope} {tr : List Exchange} {flow : Flow}

/-- What a run of a call does to the deadline of the pace point `p`, when the
call's effects keep the pace deadlines: it goes through the entries into `p`
that the run makes. -/
def PacedCall (p : String) (c : Call) (tr : List Exchange) (flow : Flow) : Prop :=
  c.Within Action.KeepsPace →
    PaceRun p c (c.session.paceDeadline? p) tr (flow.session.paceDeadline? p)

/-- Every run of every call with `n` steps goes through its entries into `p`. -/
def PacedBelow (p : String) (n : Nat) : Prop :=
  ∀ c tr flow, c.fuel = n → Runs c.run tr flow → PacedCall p c tr flow

/-- A checkpoint that stops the chain hands on the session it was given, marked
failed at most. -/
theorem Checked.paceDeadline?_error {fl : Flow} (h : Checked s sc (.error fl)) :
    fl.session.paceDeadline? p = s.paceDeadline? p := by
  rcases h with rfl | hg | ⟨-, f, -, rfl⟩
  · rfl
  · cases hg with
    | intro f hf hk s' hs' => rcases hs' with rfl | rfl <;> rfl
  · rfl

/-- A chain goes through the entries of its actions, one after the other. -/
theorem PacedBelow.chain (ih : PacedBelow p n) {ch : Chain}
    (hk : ∀ b ∈ ch, b.Within Action.KeepsPace) (h : Runs (runChain (n + 1) ch s sc) tr flow) :
    PaceRun p (.chain (n + 1) ch s sc) (s.paceDeadline? p) tr (flow.session.paceDeadline? p) := by
  cases ch with
  | nil =>
    rw [runChain] at h
    obtain ⟨rfl, rfl⟩ := runs_pure.mp h
    exact .of_eq rfl
  | cons a rest =>
    rw [runChain] at h
    obtain ⟨tr₁, r, tr₂, rfl, hc, h₂⟩ := Runs.of_bind h
    have hck := (checkpoint_checked s sc).of_runs hc
    cases r with
    | error fl =>
      obtain ⟨rfl, rfl⟩ := runs_pure.mp h₂
      exact (PaceRun.of_eq (Checked.paceDeadline?_error hck)).append []
    | ok s' =>
      obtain ⟨rfl, -⟩ := hck
      obtain ⟨tr₃, fl, tr₄, rfl, ha, h₄⟩ := Runs.of_bind h₂
      have hfirst : PaceRun p (.chain (n + 1) (a :: rest) s' sc) _ tr₃ _ :=
        (ih (.action n a _ sc) tr₃ fl rfl ha (hk a List.mem_cons_self)).lift (.first hc.yields)
      cases fl with
      | next s'' =>
        have hrest := (ih (.chain n rest s'' sc) tr₄ flow rfl h₄
          fun b hb => hk b (List.mem_cons_of_mem a hb)).lift (.rest hc.yields ha.yields)
        exact (hfirst.trans hrest).prepend tr₁
      | interrupt | exit | stopped =>
        obtain ⟨rfl, rfl⟩ := runs_pure.mp h₄
        exact (hfirst.append []).prepend tr₁

/-- A pause waits and goes on, fails or stops, with the pace deadlines as they were. -/
theorem pause_keeps_paceDeadline (iv : Interval) (s : Session) (p : String) :
    All (fun flow => flow.session.paceDeadline? p = s.paceDeadline? p) (pause iv s) := by
  simp only [pause, all_bind]
  refine All.imp (All.true _) fun r _ => ?_
  split
  · simp [Flow.session]
  · simp only [all_bind, all_clock]
    intro now
    split
    · simp [Flow.session]
    · simp only [all_bind, all_wait]
      intro b
      cases b <;> rfl

/-- A feed sets attributes or fails, with the pace deadlines as they were. -/
theorem feed_keeps_paceDeadline (source : String) (s : Session) (p : String) :
    All (fun flow => flow.session.paceDeadline? p = s.paceDeadline? p) (feed source s) := by
  simp only [feed, all_bind, all_nextRecord]
  intro r
  cases r with
  | error e => simp [Flow.session]
  | ok r => simp [Flow.session]

/-- An action goes through the entries of the chains it runs, or is an entry
itself, or leaves the deadline as it was. -/
theorem PacedBelow.action (ih : PacedBelow p n) {a : Action} (hk : a.Within Action.KeepsPace)
    (h : Runs (runAction (n + 1) a s sc) tr flow) :
    PaceRun p (.action (n + 1) a s sc) (s.paceDeadline? p) tr (flow.session.paceDeadline? p) := by
  -- a chain of the action, run with the steps left
  have child : ∀ {ch sc' tr' flow'}, ch ∈ a.children →
      Calls (.action (n + 1) a s sc) (.chain n ch s sc') →
      Runs (runChain n ch s sc') tr' flow' →
      PaceRun p (.action (n + 1) a s sc) (s.paceDeadline? p) tr' (flow'.session.paceDeadline? p) :=
    fun hch hc hr => (ih (.chain n _ s _) _ _ rfl hr (hk.chain hch)).lift hc
  cases a with
  | exec e =>
    simp only [runAction] at h
    obtain ⟨tr₁, s', tr₂, rfl, he, h₂⟩ := Runs.of_bind h
    obtain ⟨rfl, rfl⟩ := runs_pure.mp h₂
    have hs : s'.paceDeadlines = s.paceDeadlines := (hk.self s).of_runs he
    exact .of_eq (by simp [Flow.session, Session.paceDeadline?, hs])
  | branch c t e =>
    simp only [runAction] at h
    split at h
    · exact child (Action.mem_children_branch_then c t e)
        (.branch (Action.mem_children_branch_then c t e)) h
    · split at h
      · next ch =>
        exact child (Action.mem_children_branch_else c t _ rfl)
          (.branch (Action.mem_children_branch_else c t _ rfl)) h
      · obtain ⟨rfl, rfl⟩ := runs_pure.mp h
        exact .of_eq rfl
    · obtain ⟨rfl, rfl⟩ := runs_failNext.mp h
      exact .of_eq rfl
  | switch key cs e =>
    simp only [runAction] at h
    split at h
    · split at h
      · next ch hch => exact child (switch_choice_mem hch) (.switch (switch_choice_mem hch)) h
      · obtain ⟨rfl, rfl⟩ := runs_pure.mp h
        exact .of_eq rfl
    · obtain ⟨rfl, rfl⟩ := runs_failNext.mp h
      exact .of_eq rfl
  | randomSwitch cs e =>
    simp only [runAction] at h
    obtain ⟨tr₁, draw, tr₂, rfl, -, h₂⟩ := Runs.of_bind h
    split at h₂
    · next ch hch =>
      exact (child (randomSwitch_choice_mem hch) (.randomSwitch (randomSwitch_choice_mem hch))
        h₂).prepend tr₁
    · obtain ⟨rfl, rfl⟩ := runs_pure.mp h₂
      exact .of_eq rfl
  | loop g counter exitAsap body =>
    simp only [runAction] at h
    exact (ih (.loop n g counter exitAsap body s sc) tr flow rfl h
      (hk.chain List.mem_cons_self)).lift .loop
  | tryMax attempts counter body =>
    simp only [runAction] at h
    exact (ih (.retry n attempts counter body s sc) tr flow rfl h
      (hk.chain List.mem_cons_self)).lift .retry
  | exitBlockOnFail body =>
    simp only [runAction] at h
    obtain ⟨tr₁, fl, tr₂, rfl, hb, h₂⟩ := Runs.of_bind h
    have hbody := child List.mem_cons_self .exitBlock hb
    -- the block hands on the session of its body's flow, whether it catches it or not
    have hs : flow.session = fl.session := by
      cases fl with
      | interrupt s' id c =>
        dsimp only at h₂
        split at h₂ <;> (obtain ⟨rfl, rfl⟩ := runs_pure.mp h₂; rfl)
      | next | exit | stopped => obtain ⟨rfl, rfl⟩ := runs_pure.mp h₂; rfl
    rw [hs]
    exact hbody.append tr₂
  | pace iv q =>
    simp only [runAction] at h
    obtain ⟨went, hw⟩ := paced_of_runs h
    by_cases hq : q = p
    · subst hq
      exact PaceRun.entry (e := ⟨iv, s, tr, flow, went⟩) ⟨⟨n + 1, sc, .refl⟩, h, hw⟩
    · exact .of_eq (hw.deadline_of_ne (Ne.symm hq))
  | pause iv =>
    simp only [runAction] at h
    exact .of_eq ((pause_keeps_paceDeadline iv s p).of_runs h)
  | feed source fields =>
    simp only [runAction] at h
    exact .of_eq ((feed_keeps_paceDeadline source s p).of_runs h)
  | exit c =>
    have hall : All (fun flow => flow.session.paceDeadline? p = s.paceDeadline? p)
        (runAction (n + 1) (.exit c) s sc) := all_exit (by simp) rfl rfl
    exact .of_eq (hall.of_runs h)
  | stopInjector m =>
    simp only [runAction] at h
    simp only [stopInjector] at h
    obtain ⟨tr₁, rfl, h₁⟩ := runs_emit_bind.mp h
    obtain ⟨b, tr₂, rfl, h₂⟩ := runs_raise_bind.mp h₁
    obtain ⟨rfl, rfl⟩ := runs_pure.mp h₂
    exact .of_eq rfl

variable {g : LoopGuard} {counter : String} {body : Chain}

/-- A loop goes through the entries of its passes; entering and leaving its
counter leave the deadline alone. -/
theorem PacedBelow.loop (ih : PacedBelow p n) {exitAsap : Bool}
    (hk : ∀ b ∈ body, b.Within Action.KeepsPace)
    (h : Runs (runLoop (n + 1) g counter exitAsap body s sc) tr flow) :
    PaceRun p (.loop (n + 1) g counter exitAsap body s sc) (s.paceDeadline? p) tr
      (flow.session.paceDeadline? p) := by
  rw [runLoop] at h
  obtain ⟨started, tr₁, rfl, h₁⟩ := runs_clock_bind.mp h
  cases he : s.enterCounter counter started with
  | error e =>
    simp only [he] at h₁
    obtain ⟨rfl, rfl⟩ := runs_failNext.mp h₁
    exact .of_eq rfl
  | ok s₁ =>
    simp only [he] at h₁
    rw [← Session.paceDeadline?_of_enterCounter he]
    cases hp : g.plan s₁ with
    | error e =>
      simp only [hp] at h₁
      obtain ⟨tr₂, s₂, tr₃, rfl, hf, h₃⟩ := Runs.of_bind h₁
      obtain ⟨rfl, rfl⟩ := runs_fail.mp hf
      obtain ⟨t, rfl, rfl⟩ := runs_finish.mp h₃
      exact .of_eq (by simp [Flow.session])
    | ok plan =>
      simp only [hp] at h₁
      exact ((ih (.passes n g counter body plan started s₁ _) tr₁ flow rfl h₁ hk).lift
        (.enterLoop he)).prepend [.now started]

/-- The passes of a loop go through the entries of each pass in turn. -/
theorem PacedBelow.passes (ih : PacedBelow p n) {plan : Plan} {started : Nat}
    (hk : ∀ b ∈ body, b.Within Action.KeepsPace)
    (h : Runs (loopPasses (n + 1) g counter body plan started s sc) tr flow) :
    PaceRun p (.passes (n + 1) g counter body plan started s sc) (s.paceDeadline? p) tr
      (flow.session.paceDeadline? p) := by
  rw [loopPasses] at h
  obtain ⟨r, tr₁, rfl, h₁⟩ := runs_stopped_bind.mp h
  cases r with
  | some r =>
    obtain ⟨t, tr₂, rfl, h₂⟩ := runs_now.mp h₁
    obtain ⟨rfl, rfl⟩ := runs_pure.mp h₂
    exact .of_eq (by simp [Flow.session])
  | none =>
    obtain ⟨tr₂, res, tr₃, rfl, -, h₃⟩ := Runs.of_bind h₁
    rcases res with e | _ | _
    · obtain ⟨tr₄, s', tr₅, rfl, hf, h₅⟩ := Runs.of_bind h₃
      obtain ⟨rfl, rfl⟩ := runs_fail.mp hf
      obtain ⟨t, rfl, rfl⟩ := runs_finish.mp h₅
      exact .of_eq (by simp [Flow.session])
    · obtain ⟨t, rfl, rfl⟩ := runs_finish.mp h₃
      exact .of_eq (by simp [Flow.session])
    · obtain ⟨tr₄, fl, tr₅, rfl, hb, h₅⟩ := Runs.of_bind h₃
      have hbody : PaceRun p (.passes (n + 1) g counter body plan started s sc) (s.paceDeadline? p) tr₄
          (fl.session.paceDeadline? p) := by
        have h : PaceRun p (.passes (n + 1) g counter body plan started s sc) _ tr₄ _ :=
          (ih (.chain n body (bindElement plan g (s.iterationOf counter) s) sc) tr₄ fl rfl hb hk).lift
            .pass
        rwa [Call.session, paceDeadline?_bindElement] at h
      -- what is left of the pass leaves the deadline where the body left it
      have rest : ∀ {tr' : List Exchange}, flow.session.paceDeadline? p = fl.session.paceDeadline? p →
          PaceRun p (.passes (n + 1) g counter body plan started s sc) (s.paceDeadline? p)
            (.signal none :: (tr₂ ++ (tr₄ ++ tr'))) (flow.session.paceDeadline? p) :=
        fun hfl => (hbody.trans (.of_eq hfl)).prepend (.signal none :: tr₂)
      cases fl with
      | next s' =>
        cases hinc : s'.incrementCounter counter with
        | error e =>
          simp only [hinc] at h₅
          obtain ⟨tr₆, s₂, tr₇, rfl, hf, h₇⟩ := Runs.of_bind h₅
          obtain ⟨rfl, rfl⟩ := runs_fail.mp hf
          obtain ⟨t, rfl, rfl⟩ := runs_finish.mp h₇
          exact rest (by simp [Flow.session])
        | ok s'' =>
          simp only [hinc] at h₅
          obtain ⟨tr₆, rfl, h₆⟩ := runs_yield.mp h₅
          have hnext := (ih (.passes n g counter body plan started s'' sc) tr₆ flow rfl h₆ hk).lift
            (.nextPass hb.yields hinc)
          rw [Call.session, Session.paceDeadline?_of_incrementCounter hinc] at hnext
          exact (hbody.trans (hnext.prepend [.yield])).prepend (.signal none :: tr₂)
      | interrupt s' id c =>
        dsimp only at h₅
        split at h₅
        · obtain ⟨t, rfl, rfl⟩ := runs_finish.mp h₅
          exact rest (by simp [Flow.session])
        · obtain ⟨t, rfl, rfl⟩ := runs_passOn.mp h₅
          exact rest (by simp [Flow.session, Flow.mapSession])
      | exit s' =>
        obtain ⟨t, rfl, rfl⟩ := runs_passOn.mp h₅
        exact rest (by simp [Flow.session, Flow.mapSession])
      | stopped s' =>
        obtain ⟨t, rfl, rfl⟩ := runs_passOn.mp h₅
        exact rest (by simp [Flow.session, Flow.mapSession])

/-- A retry block goes through the entries of its attempts. -/
theorem PacedBelow.retry (ih : PacedBelow p n) {attempts : Source UInt64}
    (hk : ∀ b ∈ body, b.Within Action.KeepsPace)
    (h : Runs (runTry (n + 1) attempts counter body s sc) tr flow) :
    PaceRun p (.retry (n + 1) attempts counter body s sc) (s.paceDeadline? p) tr
      (flow.session.paceDeadline? p) := by
  rw [runTry] at h
  split at h
  · obtain ⟨rfl, rfl⟩ := runs_failNext.mp h
    exact .of_eq rfl
  · next max _ =>
    split at h
    · obtain ⟨rfl, rfl⟩ := runs_failNext.mp h
      exact .of_eq rfl
    · obtain ⟨now, tr₁, rfl, h₁⟩ := runs_clock_bind.mp h
      cases he : s.enterCounter counter now with
      | error e =>
        simp only [he] at h₁
        obtain ⟨rfl, rfl⟩ := runs_failNext.mp h₁
        exact .of_eq rfl
      | ok s₁ =>
        simp only [he] at h₁
        have hrun : PaceRun p (.retry (n + 1) attempts counter body s sc) _ tr₁ _ :=
          (ih (.attempts n max.toNat s.status counter body s₁ _) tr₁ flow rfl h₁ hk).lift
            (.enterRetry he)
        rw [Call.session, Session.paceDeadline?_of_enterCounter he] at hrun
        exact hrun.prepend [.now now]

/-- The attempts of a retry block go through the entries of each attempt in turn. -/
theorem PacedBelow.attempts (ih : PacedBelow p n) {max : Nat} {prior : Status}
    (hk : ∀ b ∈ body, b.Within Action.KeepsPace)
    (h : Runs (attempt (n + 1) max prior counter body s sc) tr flow) :
    PaceRun p (.attempts (n + 1) max prior counter body s sc) (s.paceDeadline? p) tr
      (flow.session.paceDeadline? p) := by
  rw [attempt] at h
  obtain ⟨tr₁, fl, tr₂, rfl, hb, h₂⟩ := Runs.of_bind h
  have hbody : PaceRun p (.attempts (n + 1) max prior counter body s sc) (s.paceDeadline? p) tr₁
      (fl.session.paceDeadline? p) :=
    (ih (.chain n body s.markSucceeded sc) tr₁ fl rfl hb hk).lift .attempt
  -- what is left of the attempt leaves the deadline where the body left it
  have rest : ∀ {tr' : List Exchange}, flow.session.paceDeadline? p = fl.session.paceDeadline? p →
      PaceRun p (.attempts (n + 1) max prior counter body s sc) (s.paceDeadline? p) (tr₁ ++ tr')
        (flow.session.paceDeadline? p) :=
    fun hfl => hbody.trans (.of_eq hfl)
  dsimp only at h₂
  split at h₂
  · next flow' hres =>
    obtain ⟨rfl, -⟩ := attempt_result_error hres
    obtain ⟨t, rfl, rfl⟩ := runs_passOn.mp h₂
    exact rest (by simp)
  · next s' hres =>
    have hs := attempt_result_session hres
    obtain ⟨t, rfl, rfl⟩ := runs_finish.mp h₂
    exact rest (by rw [hs]; simp [Flow.session])
  · next s' hres =>
    have hs := attempt_result_session hres
    split at h₂
    · obtain ⟨t, rfl, rfl⟩ := runs_finish.mp h₂
      exact rest (by rw [hs]; simp [Flow.session])
    · split at h₂
      · obtain ⟨tr₃, rfl, h₃⟩ := runs_emit_bind.mp h₂
        obtain ⟨t, rfl, rfl⟩ := runs_finish.mp h₃
        exact rest (by rw [hs]; simp [Flow.session])
      · obtain ⟨tr₃, rfl, h₃⟩ := runs_emit_bind.mp h₂
        cases hinc : s'.incrementCounter counter with
        | error e =>
          simp only [hinc] at h₃
          obtain ⟨tr₄, s₂, tr₅, rfl, hf, h₅⟩ := Runs.of_bind h₃
          obtain ⟨rfl, rfl⟩ := runs_fail.mp hf
          obtain ⟨t, rfl, rfl⟩ := runs_finish.mp h₅
          exact rest (by rw [hs]; simp [Flow.session])
        | ok s'' =>
          simp only [hinc] at h₃
          obtain ⟨sig, tr₄, rfl, h₄⟩ := runs_stopped_bind.mp h₃
          cases sig with
          | some _ =>
            obtain ⟨t, rfl, rfl⟩ := runs_passOn.mp h₄
            exact rest (by simp [Flow.session, Flow.mapSession, ← hs,
              Session.paceDeadline?_of_incrementCounter hinc])
          | none =>
            rw [← hs] at hinc
            have hnext := (ih (.attempts n max prior counter body s'' sc) tr₄ flow rfl h₄ hk).lift
              (.nextAttempt hb.yields hinc)
            rw [Call.session, Session.paceDeadline?_of_incrementCounter hinc] at hnext
            exact hbody.trans (hnext.prepend [_, .signal none])

end Steps

end Runner

open Runner

end LoadScenario
