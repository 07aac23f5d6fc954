import LoadScenario.Proofs.Runner.Passes
import LoadScenario.Effects

/-!
# What a loop does

A loop first enters its counter: a counter already in use fails the session and
nothing runs. Then it resolves its plan once, from the session with the counter
entered: the count of a counted loop, the values of a foreach loop. Then it
makes its passes (`Runner.Passes`). `Runner.LoopRun` puts the three together,
and every run of `runLoop` is one it describes (`loopRun_of_runs`).

`loop_passes_counted` is the law of a loop whose body's effects keep the
counters. Each body run starts with the counter's attribute reading the pass's
index, whatever earlier passes wrote to it, and a foreach loop's element
bound to the pass's value; a counted or foreach loop makes at most as many
passes as it planned, and exactly as many unless they are cut short; a do-while
loop makes its first pass unless the stop signal is found at its head; and
however the loop ends, its counter is left finished at the number of body runs
that went on.

The counter's attribute and a foreach element are both plain attributes,
written one after the other: a foreach loop whose element is named like its
counter starts each body with the element there, not the index
(`foreach_element_hides_counter`).
-/

namespace LoadScenario

open Prog Session

/-- The attribute a foreach loop binds its element to. -/
def LoopGuard.element? : LoopGuard → Option String
  | .foreach _ e => some e
  | _ => none

namespace Runner

variable {plan : Plan} {g : LoopGuard} {i : Nat} {s : Session}

/-- Binding a foreach element writes no other attribute. -/
theorem get?_bindElement_of_ne {x : String} (h : g.element? ≠ some x) :
    (bindElement plan g i s).get? x = s.get? x := by
  unfold bindElement
  split
  · next vs src e =>
    have hx : x ≠ e := fun hx => h (by rw [hx]; rfl)
    split
    · exact Fields.get?_insert_of_ne _ _ hx
    · rfl
  · rfl

/-- A foreach loop binds its element to the value of the pass. -/
theorem get?_bindElement_element {vs : List Value} {src : Source (List Value)} {e : String}
    (hi : i < vs.length) : (bindElement (.each vs) (.foreach src e) i s).get? e = vs[i]? := by
  simp [bindElement, List.getElem?_eq_getElem hi, Session.get?, Session.set]

section LoopRun

variable (g : LoopGuard) (c : String) (exitAsap : Bool) (body : Chain) (s : Session) (sc : Scope)

/-- The runs of a loop from session `s` in scope `sc`, with the body runs they make. -/
inductive LoopRun : List BodyRun → Flow → Prop
  /-- The counter is in use: the session fails and nothing runs. -/
  | inUse (hc : c ∈ s.active) : LoopRun [] (.next s.markFailed)
  /-- The plan cannot be resolved: the session fails and the loop ends. -/
  | unplanned {started : Nat} {s₁ : Session} {e : EvalError} {t : Nat}
      (henter : s.enterCounter c started = .ok s₁) (hplan : g.plan s₁ = .error e) :
      LoopRun [] (.next (s₁.markFailed.leave c t))
  /-- The plan is resolved: the passes follow, in the loop's own frame. -/
  | planned {started : Nat} {s₁ : Session} {plan : Plan} {rs : List BodyRun} {flow : Flow}
      (henter : s.enterCounter c started = .ok s₁) (hplan : g.plan s₁ = .ok plan)
      (hp : Passes g c body plan started (sc.push (.loop g c exitAsap started)) s₁ rs flow) :
      LoopRun rs flow

end LoopRun

variable {c : String} {exitAsap : Bool} {body : Chain} {sc : Scope}

/-- Every run of a loop is one that `LoopRun` describes. -/
theorem loopRun_of_runs {n : Nat} {tr : List Exchange} {flow : Flow}
    (h : Runs (runLoop n g c exitAsap body s sc) tr flow) :
    ∃ rs, LoopRun g c exitAsap body s sc rs flow := by
  cases n with
  | zero => cases h
  | succ n =>
    rw [runLoop] at h
    obtain ⟨started, tr₁, rfl, h₁⟩ := runs_clock_bind.mp h
    cases henter : s.enterCounter c started with
    | error e =>
      simp only [henter] at h₁
      obtain ⟨rfl, rfl⟩ := runs_failNext.mp h₁
      have hc : c ∈ s.active := by
        unfold enterCounter at henter
        split at henter
        · exact isCounterActive_iff.mp ‹_›
        · cases henter
      exact ⟨[], .inUse hc⟩
    | ok s₁ =>
      simp only [henter] at h₁
      cases hplan : g.plan s₁ with
      | error e =>
        simp only [hplan] at h₁
        obtain ⟨tr₂, s₂, tr₃, rfl, hf, h₃⟩ := Runs.of_bind h₁
        obtain ⟨rfl, rfl⟩ := runs_fail.mp hf
        obtain ⟨t, rfl, rfl⟩ := runs_finish.mp h₃
        exact ⟨[], .unplanned henter hplan⟩
      | ok plan =>
        simp only [hplan] at h₁
        obtain ⟨rs, hp⟩ := passes_of_runs n h₁
        exact ⟨rs, .planned henter hplan hp⟩

/-- The laws of a loop that entered its counter `c` at `started` inside the
counters `A`, with `s₁` the session the counter was entered in, told by its body
runs `rs` and the flow it ended with. -/
structure LoopLaws (g : LoopGuard) (c : String) (exitAsap : Bool) (body : Chain) (sc : Scope)
    (A : List String) (started : Nat) (s₁ : Session) (rs : List BodyRun) (flow : Flow) :
    Prop where
  /-- Each body run is a run of the body inside the loop's own frame. -/
  runs : ∀ r ∈ rs, r.Of body (sc.push (.loop g c exitAsap started))
  /-- The `j`-th body run starts with the counter's attribute reading `j`,
  unless the counter is also the foreach element. -/
  counter_attr : ∀ j (hj : j < rs.length), g.element? ≠ some c →
    rs[j].start.get? c = some (Value.ofNat j)
  /-- The `j`-th body run of a foreach loop starts with the element bound to the
  `j`-th value, the values resolved once in `s₁`. -/
  element_attr : ∀ src e vs, g = .foreach src e → src.resolve s₁ = .ok vs →
    ∀ j (hj : j < rs.length), rs[j].start.get? e = vs[j]?
  /-- A counted loop, its count resolved once in `s₁`, makes at most that many
  passes, and exactly that many unless they are cut short. -/
  times : ∀ src m, g = .times src → src.resolve s₁ = .ok m →
    rs.length ≤ m.toNat ∧ (rs.length = m.toNat ∨ CutShort rs flow)
  /-- So does a foreach loop, with the number of its values. -/
  each : ∀ src e vs, g = .foreach src e → src.resolve s₁ = .ok vs →
    rs.length ≤ vs.length ∧ (rs.length = vs.length ∨ CutShort rs flow)
  /-- A do-while loop makes its first pass unless the stop signal is found at its head. -/
  first_pass : ∀ cond l, g = .doWhile cond l → rs ≠ [] ∨ ∃ s', flow = .stopped s'
  /-- A plan that cannot be resolved runs no pass. -/
  unplanned : ∀ e, g.plan s₁ = .error e → rs = []
  /-- However the loop ends, its counter is left, finished at the number of
  body runs that went on, and the stack is `A` again. -/
  left : flow.session.LeftAt A c started (rs.countP (·.wentOn))

/-- A loop whose counter is in use fails the session and runs nothing. -/
theorem LoopRun.in_use {rs : List BodyRun} {flow : Flow}
    (h : LoopRun g c exitAsap body s sc rs flow) (hc : c ∈ s.active) :
    rs = [] ∧ flow = .next s.markFailed := by
  cases h with
  | inUse => exact ⟨rfl, rfl⟩
  | unplanned henter | planned henter => exact absurd hc (enterCounter_ok henter).1

/-- A counted loop's plan is its count, resolved. -/
theorem plan_times {src : Source UInt64} {m : UInt64} (hres : src.resolve s = .ok m)
    (hplan : (LoopGuard.times src).plan s = .ok plan) : plan = .times m.toNat := by
  simp only [LoopGuard.plan, hres, Except.map] at hplan
  cases hplan
  rfl

/-- A foreach loop's plan is its values, resolved. -/
theorem plan_each {src : Source (List Value)} {e : String} {vs : List Value}
    (hres : src.resolve s = .ok vs) (hplan : (LoopGuard.foreach src e).plan s = .ok plan) :
    plan = .each vs := by
  simp only [LoopGuard.plan, hres, Except.map] at hplan
  cases hplan
  rfl

/-- A loop that enters its counter and cannot resolve its plan keeps its laws:
it makes no pass and leaves the counter at iteration 0. -/
theorem LoopLaws.of_unplanned {started t : Nat} {s₁ : Session} {e : EvalError}
    (henter : s.enterCounter c started = .ok s₁) (hplan : g.plan s₁ = .error e) :
    LoopLaws g c exitAsap body sc s.active started s₁ [] (.next (s₁.markFailed.leave c t)) where
  runs r hr := by cases hr
  counter_attr j hj := absurd hj (Nat.not_lt_zero j)
  element_attr _ _ _ _ _ j hj := absurd hj (Nat.not_lt_zero j)
  times src m hg hres := by
    subst hg
    simp [LoopGuard.plan, hres, Except.map] at hplan
  each src e vs hg hres := by
    subst hg
    simp [LoopGuard.plan, hres, Except.map] at hplan
  first_pass cond l hg := by
    subst hg
    cases hplan
  unplanned _ _ := rfl
  left := by
    have hfailed : s₁.Balanced s₁.markFailed := .of_bookkeeping rfl rfl
    exact (AtRound.of_enter henter).leave hfailed t

/-- A loop that enters its counter and resolves its plan keeps its laws: they
are the laws of its passes from the head of pass 0. -/
theorem LoopLaws.of_planned (hb : ∀ b ∈ body, b.Within Action.KeepsCounters) {started : Nat}
    {s₁ : Session} {rs : List BodyRun} {flow : Flow}
    (henter : s.enterCounter c started = .ok s₁) (hplan : g.plan s₁ = .ok plan)
    (hp : Passes g c body plan started (sc.push (.loop g c exitAsap started)) s₁ rs flow) :
    LoopLaws g c exitAsap body sc s.active started s₁ rs flow := by
  have hs := AtRound.of_enter henter
  -- the passes of a loop with a bound, from the head of pass 0
  have bounded : ∀ m, plan.bound? = some m →
      rs.length ≤ m ∧ (rs.length = m ∨ CutShort rs flow) := fun m hm => by
    simpa using Passes.bounded hb hm hp hs (Nat.zero_le m)
  refine ⟨hp.runs, fun j hj hne => ?_, fun src e vs hg hres j hj => ?_, fun src m hg hres => ?_,
    fun src e vs hg hres => ?_, fun cond l hg => ?_, fun e he => ?_, ?_⟩
  · obtain ⟨hbefore, hstart⟩ := Passes.starts hb hp hs j hj
    rw [hstart, get?_bindElement_of_ne hne, hbefore.attr, Nat.zero_add]
  · subst hg
    have hplan' := plan_each hres hplan
    subst hplan'
    obtain ⟨-, hstart⟩ := Passes.starts hb hp hs j hj
    have hjv : j < vs.length := Nat.lt_of_lt_of_le hj (bounded vs.length rfl).1
    rw [hstart, Nat.zero_add, get?_bindElement_element hjv]
  · subst hg
    exact bounded m.toNat (by rw [plan_times hres hplan]; rfl)
  · subst hg
    exact bounded vs.length (by rw [plan_each hres hplan]; rfl)
  · subst hg
    cases hplan
    exact Passes.first_pass hp hs.iterationOf
  · cases hplan.symm.trans he
  · simpa using Passes.leftAt hb hp hs

/-- Every run of a loop keeps the laws of its kind. -/
theorem LoopRun.laws (hb : ∀ b ∈ body, b.Within Action.KeepsCounters) {rs : List BodyRun}
    {flow : Flow} (h : LoopRun g c exitAsap body s sc rs flow) (hc : c ∉ s.active) :
    ∃ started s₁, s.enterCounter c started = .ok s₁ ∧
      LoopLaws g c exitAsap body sc s.active started s₁ rs flow := by
  cases h with
  | inUse hc' => exact absurd hc' hc
  | unplanned henter hplan => exact ⟨_, _, henter, .of_unplanned henter hplan⟩
  | planned henter hplan hp => exact ⟨_, _, henter, .of_planned hb henter hplan hp⟩

end Runner

open Runner

/-- The law of a loop's passes, for a body whose effects keep the counters.
A loop whose counter is in use fails the session and runs nothing. Otherwise
it enters the counter, resolves its plan once, and makes passes: each body
run starts with the counter's attribute reading the pass's index, whatever
earlier passes wrote, unless the counter is also the foreach element, and with
a foreach loop's element bound to the pass's value; a counted or foreach loop
makes at most as many passes as planned, and exactly as many unless a body run
leaves its pass or the stop signal is found at a head; a do-while loop makes
its first pass unless the stop signal is found at its head; and whichever way
the loop ends, its counter is left finished at the number of body runs that
went on. -/
theorem loop_passes_counted {n : Nat} {g : LoopGuard} {c : String} {exitAsap : Bool}
    {body : Chain} {s : Session} {sc : Scope} {tr : List Exchange} {flow : Flow}
    (hb : ∀ b ∈ body, b.Within Action.KeepsCounters)
    (h : Runs (runLoop n g c exitAsap body s sc) tr flow) :
    ∃ rs, LoopRun g c exitAsap body s sc rs flow ∧
      (c ∈ s.active → rs = [] ∧ flow = .next s.markFailed) ∧
      (c ∉ s.active → ∃ started s₁, s.enterCounter c started = .ok s₁ ∧
        LoopLaws g c exitAsap body sc s.active started s₁ rs flow) := by
  obtain ⟨rs, hl⟩ := loopRun_of_runs h
  exact ⟨rs, hl, hl.in_use, hl.laws hb⟩

/-- A loop repeating twice a body that overwrites the counter's attribute, run
with the clock at 0, keeps the laws of its passes: the second pass still starts
with the attribute at its index. -/
theorem repeat_twice_keeps_loop_laws :
    ∃ tr flow, Runs (runLoop 10 (.times (.const 2)) "i" false
        [.exec (Effect.ofFun "scribble" (·.set "i" (.string "x")))] (Session.new "user" 0) []) tr flow ∧
      ∃ rs, LoopRun (.times (.const 2)) "i" false
          [.exec (Effect.ofFun "scribble" (·.set "i" (.string "x")))] (Session.new "user" 0) [] rs flow ∧
        ∃ started s₁, (Session.new "user" 0).enterCounter "i" started = .ok s₁ ∧
          LoopLaws (.times (.const 2)) "i" false
            [.exec (Effect.ofFun "scribble" (·.set "i" (.string "x")))] [] [] started s₁ rs flow := by
  -- each pass checks the clock at its checkpoint, and the body writes the attribute
  have hrun : Runs (runLoop 10 (.times (.const 2)) "i" false
      [.exec (Effect.ofFun "scribble" (·.set "i" (.string "x")))] (Session.new "user" 0) [])
      [.now 0, .signal none, .signal none, .now 0, .yield, .signal none, .signal none, .now 0, .yield,
        .signal none, .now 0] _ :=
    .now 0 (.signal none (.signal none (.now 0 (.yield (.signal none (.signal none (.now 0
      (.yield (.signal none (.now 0 (.pure _)))))))))))
  have hb : ∀ b ∈ [Action.exec (Effect.ofFun "scribble" (·.set "i" (.string "x")))],
      b.Within Action.KeepsCounters :=
    Action.Within.singleton (.of_leaf (fun _ => ⟨rfl, rfl⟩) rfl)
  obtain ⟨rs, hl, -, hlaws⟩ := loop_passes_counted hb hrun
  exact ⟨_, _, hrun, rs, hl, hlaws (by decide)⟩

/-- A foreach loop whose element is named like its counter starts its body with
the element, not the index, in the counter's attribute: here the body fails the
session unless the attribute reads `0` at its first pass, and it does fail. -/
theorem foreach_element_hides_counter :
    ¬ All (fun flow => flow.session.isFailed = false)
      (runAction 10 (.loop (.foreach (.const [.string "a"]) "i") "i" false
          [.exec (Effect.ofFun "check" (Effect.failIf (.callback fun s =>
            .ok (!(s.get? "i" matches some (.number (.nat 0)))))))])
        (Session.new "user" 0) []) := by
  intro h
  -- the run where the clock reads 0 and no stop is signalled
  have h' : _ = false := h 0 none none 0 none 0
  revert h'
  decide

end LoadScenario
