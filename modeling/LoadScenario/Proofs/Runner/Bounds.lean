import LoadScenario.Proofs.Runner.Loops
import LoadScenario.Proofs.Runner.Calls

/-!
# Guarded loops keep to their bounds

An `asLongAs` or `doWhile` loop has a condition and a time limit, both read
again at every check against the clock and the session of the moment. The loop
checks them in two places: at the head of each pass (`proceed`), where a
do-while's first pass is let in unchecked, and, for an `exitAsap` loop, at the
checkpoint before every action at any depth inside its body
(`Scope.lapsed?`), where a do-while's first pass checks only the limit.

`LoopGuard.HoldsAt` says what a check that answers `true` found: the time since
the loop started is below the limit, and the condition resolved to `true`
(`holds_eq_ok_true`). `guarded_loops_keep_their_bound` then says that every
pass of such a loop was let in by a check that found its guard holding, except
a do-while's first, and that every action run inside an `exitAsap` loop's body
starts right after a checkpoint that found its guard holding. So no pass starts
past the bound, and an `exitAsap` loop overruns it by at most the action
running when the bound passes.
-/

namespace LoadScenario

open Prog Session Runner

namespace LoopGuard

/-- The time limit of a guard, if it has one. -/
def limit? : LoopGuard → Option (Source Duration)
  | .asLongAs _ l | .doWhile _ l => l
  | _ => none

/-- The condition of a guard, if it has one. -/
def condition? : LoopGuard → Option (Source Bool)
  | .asLongAs c _ => c
  | .doWhile c _ => some c
  | _ => none

/-- Whether the guard is a do-while's. -/
def isDoWhile : LoopGuard → Bool
  | .doWhile .. => true
  | _ => false

/-- What a check of the guard that answers `true` found at time `now`, for a
loop started at `started`: the time since the start is below the limit, and,
when the condition is checked, it resolves to `true`; both read in `s`. -/
def HoldsAt (g : LoopGuard) (started now : Nat) (s : Session) (checkCondition : Bool) : Prop :=
  (∀ src, g.limit? = some src → ∃ d : Duration, src.resolve s = .ok d ∧ now - started < d.nanos) ∧
    (checkCondition = true → ∀ cond, g.condition? = some cond → cond.resolve s = .ok true)

variable {started now : Nat} {s : Session} {check : Bool}

/-- The check of an optional condition answers `true` exactly when the
condition, if checked, resolves to `true`. -/
theorem holds_condition_eq_ok_true {c : Option (Source Bool)} :
    holds.condition s check c = .ok true ↔
      (check = true → ∀ cond, c = some cond → cond.resolve s = .ok true) := by
  cases c with
  | none => simp [holds.condition]
  | some cond => cases check <;> simp [holds.condition]

/-- The check of an optional limit and condition answers `true` exactly when
the time since the start is below the limit and the condition, if checked,
resolves to `true`. -/
theorem holds_within_eq_ok_true {c : Option (Source Bool)} {l : Option (Source Duration)} :
    holds.within started now s check c l = .ok true ↔
      (∀ src, l = some src → ∃ d : Duration, src.resolve s = .ok d ∧ now - started < d.nanos) ∧
        (check = true → ∀ cond, c = some cond → cond.resolve s = .ok true) := by
  cases l with
  | none => simp [holds.within, holds_condition_eq_ok_true]
  | some src =>
    cases hres : src.resolve s with
    | error e => simp [holds.within, hres]
    | ok d =>
      -- the limit resolves to `d`: the check reads the time against it, then the condition
      have hlimit : (∀ src', some src = some src' →
          ∃ d' : Duration, src'.resolve s = .ok d' ∧ now - started < d'.nanos) ↔
          now - started < d.nanos := by
        constructor
        · intro h
          obtain ⟨d', hd', hlt⟩ := h src rfl
          rw [hres] at hd'
          cases hd'
          exact hlt
        · intro hlt src' hsrc
          cases hsrc
          exact ⟨d, hres, hlt⟩
      rw [hlimit]
      simp only [holds.within, hres]
      by_cases hle : d.nanos ≤ now - started
      · rw [if_pos hle]
        exact ⟨fun h => (nomatch h), fun h => absurd h.1 (Nat.not_lt.mpr hle)⟩
      · rw [if_neg hle, holds_condition_eq_ok_true]
        exact ⟨fun h => ⟨Nat.lt_of_not_le hle, h⟩, fun h => h.2⟩

/-- The check of a guard answers `true` exactly when it finds the guard holding. -/
theorem holds_eq_ok_true (g : LoopGuard) :
    g.holds started now s check = .ok true ↔ g.HoldsAt started now s check := by
  cases g with
  | asLongAs c l => exact holds_within_eq_ok_true
  | doWhile c l => exact holds_within_eq_ok_true
  | times | foreach | forever => simp [holds, HoldsAt, limit?, condition?]

end LoopGuard

/-! ## The checkpoint of an `exitAsap` loop -/

/-- An `exitAsap` loop's frame has not lapsed exactly when its guard holds,
the condition left unchecked during a do-while's first pass. -/
theorem Frame.lapsed?_loop_eq_none {id : Nat} {g : LoopGuard} {c : String} {started now : Nat}
    {s : Session} :
    (⟨id, .loop g c true started⟩ : Frame).lapsed? now s = none ↔
      g.HoldsAt started now s (!(g.isDoWhile && s.iterationOf c == 0)) := by
  rw [← LoopGuard.holds_eq_ok_true]
  cases g <;> simp only [Frame.lapsed?, LoopGuard.isDoWhile, Session.iterationOf] <;>
    split <;> simp_all

namespace Scope

variable {now : Nat} {s : Session}

theorem lapsed?_outermost_eq_none :
    ∀ {fs : List Frame}, lapsed?.outermost now s fs = none → ∀ f ∈ fs, f.lapsed? now s = none
  | [], _, f, hf => absurd hf List.not_mem_nil
  | f :: rest, h, f', hf' => by
    simp only [lapsed?.outermost] at h
    split at h
    · cases h
    · next hnone =>
      rcases List.mem_cons.mp hf' with rfl | hf'
      · exact hnone
      · exact lapsed?_outermost_eq_none h f' hf'

/-- A scope none of whose frames must end has no frame that must end. -/
theorem lapsed?_eq_none {sc : Scope} (h : sc.lapsed? now s = none) {f : Frame} (hf : f ∈ sc) :
    f.lapsed? now s = none :=
  lapsed?_outermost_eq_none h f (List.mem_reverse.mpr hf)

end Scope

namespace Runner

/-- A checkpoint that lets the session through leaves it as it is, and inside a
block it read the clock at a time when no frame of the scope had to end. -/
theorem checkpoint_lets_through (s : Session) (sc : Scope) :
    All (fun r => ∀ s', r = .ok s' → s' = s ∧ (sc = [] ∨ ∃ now, sc.lapsed? now s = none))
      (checkpoint s sc) := by
  simp only [checkpoint, all_bind, all_stopped, if_true, Bool.false_eq_true, if_false]
  constructor
  · intro s' h
    cases h
  split
  · intro s' h
    cases h
    exact ⟨rfl, .inl rfl⟩
  · next hsc =>
    simp only [all_bind, all_clock]
    intro now
    split
    · -- a frame must end: the checkpoint interrupts
      split <;>
      · rw [all_bind]
        refine All.imp (All.true _) fun _ _ => ?_
        intro s' h
        cases h
    · next hl =>
      -- no frame must end: the checkpoint lets the session through or interrupts
      have hthrough : ∀ s', (Except.ok s : Except Flow Session) = .ok s' →
          s' = s ∧ (sc = [] ∨ ∃ now, sc.lapsed? now s = none) := fun s' h => by
        cases h
        exact ⟨rfl, .inr ⟨now, hl⟩⟩
      split
      · split
        · intro s' h; cases h
        · exact hthrough
      · exact hthrough

/-! ## Where the calls of a loop's body run -/

/-- The scope a call runs in. -/
def Call.scope : Call → Scope
  | .chain _ _ _ sc | .action _ _ _ sc | .loop _ _ _ _ _ _ sc | .passes _ _ _ _ _ _ _ sc
  | .retry _ _ _ _ _ sc | .attempts _ _ _ _ _ _ sc => sc

/-- A call runs its callees in its own scope or in frames pushed on it. -/
theorem Calls.scope_extends {x y : Call} (h : Calls x y) : ∃ pre, y.scope = pre ++ x.scope := by
  cases h with
  | exitBlock | enterLoop | enterRetry => exact ⟨[_], Scope.push_eq_cons _ _⟩
  | first | rest | branch | switch | randomSwitch | loop | retry | pass | nextPass | attempt
  | nextAttempt => exact ⟨[], rfl⟩

/-- A call reached at any depth runs in frames pushed on the scope it started from. -/
theorem Reaches.scope_extends {x y : Call} (h : Reaches x y) : ∃ pre, y.scope = pre ++ x.scope := by
  induction h with
  | refl => exact ⟨[], rfl⟩
  | tail _ hcall ih =>
    obtain ⟨pre, hpre⟩ := ih
    obtain ⟨pre', hpre'⟩ := hcall.scope_extends
    exact ⟨pre' ++ pre, by rw [hpre', hpre, List.append_assoc]⟩

/-- Every call reached from a loop, but the loop itself, runs inside the frame
the loop pushed when it started. -/
theorem Reaches.inside_loop {n : Nat} {g : LoopGuard} {c : String} {exitAsap : Bool}
    {body : Chain} {s : Session} {sc : Scope} {y : Call}
    (h : Reaches (.loop n g c exitAsap body s sc) y) (hy : y ≠ .loop n g c exitAsap body s sc) :
    ∃ started pre, y.scope = pre ++ sc.push (.loop g c exitAsap started) := by
  rcases Relation.ReflTransGen.cases_head h with heq | ⟨z, hz, hzy⟩
  · exact absurd heq.symm hy
  · cases hz with
    | enterLoop =>
      obtain ⟨pre, hpre⟩ := Reaches.scope_extends hzy
      exact ⟨_, pre, hpre⟩

/-- An action is called only by a chain, right after a checkpoint that let its
session through. -/
theorem Reaches.after_checkpoint {x : Call} {m : Nat} {a : Action} {s' : Session} {sc' : Scope}
    (h : Reaches x (.action m a s' sc')) (hx : ∀ m a s sc, x ≠ .action m a s sc) :
    ∃ rest s₀, Reaches x (.chain (m + 1) (a :: rest) s₀ sc') ∧
      Yields (checkpoint s₀ sc') (.ok s') := by
  rcases Relation.ReflTransGen.cases_tail h with heq | ⟨y, hxy, hy⟩
  · exact absurd heq.symm (hx _ _ _ _)
  · cases hy with
    | first hc => exact ⟨_, _, hxy, hc⟩

/-! ## The two checks -/

variable {n : Nat} {g : LoopGuard} {c : String} {exitAsap : Bool} {body : Chain} {s : Session}
  {sc : Scope}

/-- Every action run at any depth inside an `exitAsap` loop's body starts right
after a checkpoint that read the clock at `now`, inside the frame the loop
pushed when it started at `started`, and found the loop's guard holding then,
its condition unchecked while a do-while's counter is at its first pass. -/
theorem exitAsap_actions_start_within {m : Nat} {a : Action} {s' : Session} {sc' : Scope}
    (h : Reaches (.loop n g c true body s sc) (.action m a s' sc')) :
    ∃ started pre now, sc' = pre ++ sc.push (.loop g c true started) ∧
      sc'.lapsed? now s' = none ∧
      g.HoldsAt started now s' (!(g.isDoWhile && s'.iterationOf c == 0)) := by
  obtain ⟨started, pre, hsc'⟩ := h.inside_loop (fun heq => by cases heq)
  obtain ⟨rest, s₀, -, hc⟩ := h.after_checkpoint (fun _ _ _ _ heq => by cases heq)
  obtain ⟨rfl, hlet⟩ := (checkpoint_lets_through s₀ sc').of_yields hc s' rfl
  have hmem : (⟨(sc.head?.map (·.id + 1)).getD 0, .loop g c true started⟩ : Frame) ∈ sc' := by
    change sc' = _ at hsc'
    rw [hsc', Scope.push_eq_cons]
    simp
  rcases hlet with hnil | ⟨now, hnone⟩
  · rw [hnil] at hmem
    exact absurd hmem List.not_mem_nil
  · exact ⟨started, pre, now, hsc', hnone,
      Frame.lapsed?_loop_eq_none.mp (Scope.lapsed?_eq_none hnone hmem)⟩

/-- A guarded loop's plan is to check its guard. -/
theorem plan_guarded (hg : g.isInterruptible = true) {plan : Plan}
    (hplan : g.plan s = .ok plan) : plan = .guarded := by
  cases g <;> simp [LoopGuard.isInterruptible] at hg <;> (cases hplan; rfl)

/-- Every pass of a guarded loop whose body keeps the counters was let in by a
head check that read the clock at `t` and found the guard holding, in the
session at the head of the pass; only a do-while's first pass is let in
unchecked. -/
theorem LoopRun.passes_within (hb : ∀ b ∈ body, b.Within Action.KeepsCounters)
    (hg : g.isInterruptible = true) {rs : List BodyRun} {flow : Flow}
    (h : LoopRun g c exitAsap body s sc rs flow) (hc : c ∉ s.active) :
    ∃ started s₁, s.enterCounter c started = .ok s₁ ∧ ∀ j (hj : j < rs.length),
      (g.isDoWhile = true ∧ j = 0) ∨
        ∃ t, Runs (proceed .guarded g started rs[j].before j) [.now t] (.ok true) ∧
          g.HoldsAt started t rs[j].before true := by
  cases h with
  | inUse hc' => exact absurd hc' hc
  | unplanned henter => exact ⟨_, _, henter, fun j hj => absurd hj (Nat.not_lt_zero j)⟩
  | planned henter hplan hp =>
    refine ⟨_, _, henter, fun j hj => ?_⟩
    obtain rfl := plan_guarded hg hplan
    obtain ⟨tr, hhead⟩ := Passes.heads hb hp (AtRound.of_enter henter) j hj
    rw [Nat.zero_add] at hhead
    -- a do-while lets its first pass in unchecked; every other check reads the clock
    cases g with
    | doWhile cond l =>
      rcases runs_proceed_doWhile.mp hhead with ⟨hj0, -, -⟩ | ⟨-, t, rfl, hholds⟩
      · exact .inl ⟨rfl, hj0⟩
      · exact .inr ⟨t, hhead, (LoopGuard.holds_eq_ok_true _).mp hholds.symm⟩
    | asLongAs cond l =>
      obtain ⟨t, rfl, hholds⟩ := (runs_proceed_guarded (fun _ _ heq => by cases heq)).mp hhead
      exact .inr ⟨t, hhead, (LoopGuard.holds_eq_ok_true _).mp hholds.symm⟩
    | times | foreach | forever => simp [LoopGuard.isInterruptible] at hg

end Runner

open Runner

/-- Guarded loops keep to their bound, for a body whose effects keep the
counters. Every pass of an `asLongAs` or `doWhile` loop was let in by a head
check that read the clock and found the time since the loop started below its
limit and its condition true, in the session of the moment; only a do-while's
first pass is let in unchecked. And every action run at any depth inside an
`exitAsap` loop's body starts right after a checkpoint that read the clock and
found the same, the condition left unchecked while a do-while's counter is at
its first pass. -/
theorem guarded_loops_keep_their_bound {n : Nat} {g : LoopGuard} {c : String} {exitAsap : Bool}
    {body : Chain} {s : Session} {sc : Scope} {tr : List Exchange} {flow : Flow}
    (hb : ∀ b ∈ body, b.Within Action.KeepsCounters) (hg : g.isInterruptible = true)
    (h : Runs (runLoop n g c exitAsap body s sc) tr flow) :
    (∃ rs, LoopRun g c exitAsap body s sc rs flow ∧
      (c ∉ s.active → ∃ started s₁, s.enterCounter c started = .ok s₁ ∧
        ∀ j (hj : j < rs.length), (g.isDoWhile = true ∧ j = 0) ∨
          ∃ t, Runs (proceed .guarded g started rs[j].before j) [.now t] (.ok true) ∧
            g.HoldsAt started t rs[j].before true)) ∧
    (exitAsap = true → ∀ m a s' sc', Reaches (.loop n g c true body s sc) (.action m a s' sc') →
      ∃ started pre now, sc' = pre ++ sc.push (.loop g c true started) ∧
        sc'.lapsed? now s' = none ∧
        g.HoldsAt started now s' (!(g.isDoWhile && s'.iterationOf c == 0))) := by
  obtain ⟨rs, hl⟩ := loopRun_of_runs h
  exact ⟨⟨rs, hl, hl.passes_within hb hg⟩, fun _ _ _ _ _ hreach =>
    exitAsap_actions_start_within hreach⟩

/-- A loop that goes on for one millisecond and ends as soon as its guard
lapses, around one action, run with the clock at 0 for its first pass, at
0.5 ms at the body's checkpoint and at 2 ms for its second head check, keeps to
its bound; and the body's action, reached inside the loop's frame after a
checkpoint at time 0, starts within the bound. -/
theorem millisecond_loop_keeps_its_bound :
    ∃ tr flow, Runs (runLoop 10 (.asLongAs none (some (.const ⟨1000000⟩))) "i" true
        [.exec (Effect.ofFun "mark" (·.set "seen" (.bool true)))] (Session.new "user" 0) []) tr flow ∧
      (∃ rs, LoopRun (.asLongAs none (some (.const ⟨1000000⟩))) "i" true
          [.exec (Effect.ofFun "mark" (·.set "seen" (.bool true)))] (Session.new "user" 0) [] rs flow ∧
        ("i" ∉ (Session.new "user" 0).active → ∃ started s₁,
          (Session.new "user" 0).enterCounter "i" started = .ok s₁ ∧
          ∀ j (hj : j < rs.length),
            ((LoopGuard.asLongAs none (some (.const ⟨1000000⟩))).isDoWhile = true ∧ j = 0) ∨
            ∃ t, Runs (proceed .guarded (.asLongAs none (some (.const ⟨1000000⟩))) started
                rs[j].before j) [.now t] (.ok true) ∧
              (LoopGuard.asLongAs none (some (.const ⟨1000000⟩))).HoldsAt started t
                rs[j].before true)) ∧
      ∃ s' sc', Reaches (.loop 10 (.asLongAs none (some (.const ⟨1000000⟩))) "i" true
          [.exec (Effect.ofFun "mark" (·.set "seen" (.bool true)))] (Session.new "user" 0) [])
          (.action 7 (.exec (Effect.ofFun "mark" (·.set "seen" (.bool true)))) s' sc') ∧
        ∃ started pre now, sc' = pre ++ Scope.push [] (.loop (.asLongAs none (some (.const ⟨1000000⟩)))
            "i" true started) ∧
          sc'.lapsed? now s' = none ∧
          (LoopGuard.asLongAs none (some (.const ⟨1000000⟩))).HoldsAt started now s' true := by
  have hrun : Runs (runLoop 10 (.asLongAs none (some (.const ⟨1000000⟩))) "i" true
      [.exec (Effect.ofFun "mark" (·.set "seen" (.bool true)))] (Session.new "user" 0) [])
      [.now 0, .signal none, .now 0, .signal none, .now 500000, .yield, .signal none, .now 2000000,
        .now 2000000] _ :=
    .now 0 (.signal none (.now 0 (.signal none (.now 500000 (.yield (.signal none (.now 2000000
      (.now 2000000 (.pure _)))))))))
  have hb : ∀ b ∈ [Action.exec (Effect.ofFun "mark" (·.set "seen" (.bool true)))],
      b.Within Action.KeepsCounters :=
    Action.Within.singleton (.of_leaf (fun _ => ⟨rfl, rfl⟩) rfl)
  -- the loop enters its counter at 0, makes a pass, and the body's checkpoint lets the action in
  obtain ⟨s₁, henter, hs₁⟩ : ∃ s₁, (Session.new "user" 0).enterCounter "i" 0 = .ok s₁ ∧ s₁ = _ :=
    ⟨_, rfl, rfl⟩
  subst hs₁
  obtain ⟨s', sc', hreach⟩ : ∃ s' sc', Reaches (.loop 10 (.asLongAs none (some (.const ⟨1000000⟩)))
      "i" true [.exec (Effect.ofFun "mark" (·.set "seen" (.bool true)))] (Session.new "user" 0) [])
      (.action 7 (.exec (Effect.ofFun "mark" (·.set "seen" (.bool true)))) s' sc') :=
    ⟨_, _, .tail (.tail (.single (@Calls.enterLoop _ _ _ _ _ _ _ _ _ .guarded henter)) .pass)
      (.first (Runs.yields (.signal none (.now 0 (.pure _)))))⟩
  have hbound := guarded_loops_keep_their_bound hb rfl hrun
  exact ⟨_, _, hrun, hbound.1, s', sc', hreach, hbound.2 rfl _ _ _ _ hreach⟩

end LoadScenario
