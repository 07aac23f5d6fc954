import LoadScenario.Chain.Build
import LoadScenario.Proofs.Chain.Inside

/-!
# Chains the builder makes

The builder closes every block with a check, and a loop or a retry block
refuses a body that holds, at any depth, a block counting in its own counter.
`Action.Built` says an action came out of the builder: each block was closed
by its builder function, which accepted it, over chains that were built in
turn. Actions pushed by hand (a loop or retry block that skipped the check)
are not built.

`Action.CountsIn c a` says a block inside `a` counts in `c`. The main
statement, `Action.Built.checks`, says that in a built action no block counts
in the counter of a block around it: the builder's boolean test
`Chain.usesCounter` finds every such block (`Action.usesCounter_of_countsIn`).
-/

namespace LoadScenario

/-- Some block inside `a`, `a` itself included, counts in `c`. -/
def Action.CountsIn (c : String) (a : Action) : Prop :=
  ∃ d : Action, d.Inside a ∧ d.scopeCounter? = some c

namespace Action.CountsIn

variable {c : String} {a b : Action} {ch : Chain}

/-- A block counts in its own counter. -/
theorem self (h : a.scopeCounter? = some c) : a.CountsIn c := ⟨a, .refl a, h⟩

/-- A block counting inside one of an action's chains counts inside the action. -/
theorem of_child (hch : ch ∈ a.children) (hb : b ∈ ch) (h : b.CountsIn c) : a.CountsIn c := by
  obtain ⟨d, hd, hc⟩ := h
  exact ⟨d, .child hch hb hd, hc⟩

end Action.CountsIn

/-- No block inside the chains of a loop or retry block counts in the block's own counter. -/
def Action.ChecksCounter (a : Action) : Prop :=
  ∀ c, a.scopeCounter? = some c → ∀ ch ∈ a.children, ∀ b ∈ ch, ¬ b.CountsIn c

/-! ## The builder's test finds every block counting in a name -/

section UsesCounter

variable {c : String}

theorem Chain.usesCounter_of_mem {b : Action} :
    ∀ {ch : Chain}, b ∈ ch → b.usesCounter c = true → Chain.usesCounter c ch = true
  | a :: rest, hb, h => by
    rw [Chain.usesCounter, Bool.or_eq_true]
    rcases List.mem_cons.mp hb with rfl | hb
    · exact Or.inl h
    · exact Or.inr (Chain.usesCounter_of_mem hb h)

theorem Chain.usesCounterKeyed_of_mem {ch : Chain} :
    ∀ {cs : List (Value × Chain)}, ch ∈ cs.map (·.2) → Chain.usesCounter c ch = true →
      Chain.usesCounterKeyed c cs = true
  | (_, ch') :: rest, hch, h => by
    rw [Chain.usesCounterKeyed, Bool.or_eq_true]
    rcases List.mem_cons.mp hch with rfl | hch
    · exact Or.inl h
    · exact Or.inr (Chain.usesCounterKeyed_of_mem hch h)

theorem Chain.usesCounterWeighted_of_mem {ch : Chain} :
    ∀ {cs : List (Float × Chain)}, ch ∈ cs.map (·.2) → Chain.usesCounter c ch = true →
      Chain.usesCounterWeighted c cs = true
  | (_, ch') :: rest, hch, h => by
    rw [Chain.usesCounterWeighted, Bool.or_eq_true]
    rcases List.mem_cons.mp hch with rfl | hch
    · exact Or.inl h
    · exact Or.inr (Chain.usesCounterWeighted_of_mem hch h)

theorem Chain.usesCounterElse_of_mem {ch : Chain} {e : Option Chain} (hch : ch ∈ e.toList)
    (h : Chain.usesCounter c ch = true) : Chain.usesCounterElse c e = true := by
  cases e with
  | none => cases hch
  | some ch' =>
    rw [Option.toList_some, List.mem_singleton] at hch
    subst hch
    exact h

/-- A block counting in `c` makes every action holding it use `c`. -/
theorem Action.usesCounter_of_child {a : Action} {ch : Chain} (hch : ch ∈ a.children)
    (h : Chain.usesCounter c ch = true) : a.usesCounter c = true := by
  cases a with
  | branch cond t e =>
    rw [Action.usesCounter, Bool.or_eq_true]
    rcases List.mem_cons.mp hch with rfl | hch
    · exact Or.inl h
    · exact Or.inr (Chain.usesCounterElse_of_mem hch h)
  | switch key cs e =>
    rw [Action.usesCounter, Bool.or_eq_true]
    rcases List.mem_append.mp hch with hch | hch
    · exact Or.inl (Chain.usesCounterKeyed_of_mem hch h)
    · exact Or.inr (Chain.usesCounterElse_of_mem hch h)
  | randomSwitch cs e =>
    rw [Action.usesCounter, Bool.or_eq_true]
    rcases List.mem_append.mp hch with hch | hch
    · exact Or.inl (Chain.usesCounterWeighted_of_mem hch h)
    · exact Or.inr (Chain.usesCounterElse_of_mem hch h)
  | loop g counter exitAsap body =>
    rw [List.mem_singleton.mp hch] at h
    simp [Action.usesCounter, h]
  | tryMax attempts counter body =>
    rw [List.mem_singleton.mp hch] at h
    simp [Action.usesCounter, h]
  | exitBlockOnFail body =>
    rw [List.mem_singleton.mp hch] at h
    simpa [Action.usesCounter] using h
  | exec _ | pace _ _ | pause _ | feed _ _ | exit _ | stopInjector _ => cases hch

/-- A block uses its own counter. -/
theorem Action.usesCounter_of_scopeCounter {a : Action} (h : a.scopeCounter? = some c) :
    a.usesCounter c = true := by
  cases a <;> simp_all [Action.scopeCounter?, Action.usesCounter]

/-- The builder's test sees every block counting in `c`, at any depth. -/
theorem Action.usesCounter_of_countsIn {a : Action} (h : a.CountsIn c) : a.usesCounter c = true := by
  obtain ⟨d, hd, hc⟩ := h
  induction hd with
  | refl => exact usesCounter_of_scopeCounter hc
  | child hch hb _ ih =>
    exact usesCounter_of_child hch (Chain.usesCounter_of_mem hb (ih hc))

/-- A body that passes the counter check holds no block counting in that counter. -/
theorem checkCounter_ok {body : Chain} {u : Unit} (h : checkCounter c body = .ok u) :
    ∀ b ∈ body, ¬ b.CountsIn c := by
  intro b hb hcount
  have huse : Chain.usesCounter c body = true :=
    Chain.usesCounter_of_mem hb (Action.usesCounter_of_countsIn hcount)
  simp [checkCounter, huse] at h

end UsesCounter

/-! ## What each builder function gives -/

/-- A successful sequence of building steps is a successful first step and a
successful rest. -/
theorem Build.run_bind_ok {α β : Type} {x : Build α} {f : α → Build β} {n n'' : Nat} {b : β}
    (h : (x >>= f).run n = .ok (b, n'')) :
    ∃ a n', x.run n = .ok (a, n') ∧ (f a).run n' = .ok (b, n'') := by
  simp only [StateT.run_bind] at h
  cases hx : x.run n with
  | error e => rw [hx] at h; cases h
  | ok p => rw [hx] at h; exact ⟨p.1, p.2, rfl, h⟩

namespace Action

variable {n n' : Nat} {a : Action} {body : Chain}

/-- The last step of closing a block: the counter check passes and the block is made. -/
theorem close_ok {name : String} {b : Action}
    (h : (do liftM (checkCounter name body); pure b : Build Action).run n = .ok (a, n')) :
    checkCounter name body = .ok () ∧ a = b := by
  obtain ⟨u, n2, hc, h⟩ := Build.run_bind_ok h
  simp only [liftM, monadLift, MonadLift.monadLift, StateT.run_lift] at hc
  cases hcheck : checkCounter name body with
  | error e => rw [hcheck] at hc; cases hc
  | ok u' =>
    cases h
    exact ⟨rfl, rfl⟩

/-- A block counting in `name` over `body` checks its counter once `body` passed the check. -/
theorem checksCounter_of_check {name : String} (hb : a.scopeCounter? = some name)
    (hch : a.children = [body]) (h : checkCounter name body = .ok ()) : a.ChecksCounter := by
  intro c hc ch hmem
  rw [hb, Option.some.injEq] at hc
  rw [hch, List.mem_singleton] at hmem
  subst hc hmem
  exact checkCounter_ok h

/-- A loop the builder closes checks its counter against its body. -/
theorem loopBlock_checks {g : LoopGuard} {counter : Option String} {exitAsap : Bool}
    (h : (loopBlock g counter exitAsap body).run n = .ok (a, n')) :
    a.ChecksCounter ∧ a.children = [body] := by
  unfold loopBlock at h
  -- the name is given or generated; either way the check runs on it
  have hname : ∃ name, checkCounter name body = .ok () ∧
      a = .loop g name (exitAsap && g.isInterruptible) body := by
    cases counter <;>
    · dsimp only at h
      obtain ⟨name, n1, -, h⟩ := Build.run_bind_ok h
      exact ⟨name, close_ok h⟩
  obtain ⟨name, hcheck, rfl⟩ := hname
  exact ⟨checksCounter_of_check rfl rfl hcheck, rfl⟩

/-- A retry block the builder closes checks its counter against its body. -/
theorem retryBlock_checks {attempts : Source UInt64} {counter : Option String}
    (h : (retryBlock attempts counter body).run n = .ok (a, n')) :
    a.ChecksCounter ∧ a.children = [body] := by
  unfold retryBlock at h
  dsimp only at h
  -- past the test of the attempt count, the name is given or generated
  have hname : ∃ name, checkCounter name body = .ok () ∧ a = .tryMax attempts name body := by
    split at h
    · obtain ⟨_, _, hzero, -⟩ := Build.run_bind_ok h
      cases hzero
    · cases counter <;>
      · dsimp only at h
        obtain ⟨name, n1, -, h⟩ := Build.run_bind_ok h
        exact ⟨name, close_ok h⟩
  obtain ⟨name, hcheck, rfl⟩ := hname
  exact ⟨checksCounter_of_check rfl rfl hcheck, rfl⟩

/-- An action that is no block counts in no counter of its own to check. -/
theorem checksCounter_of_none (h : a.scopeCounter? = none) : a.ChecksCounter := by
  intro c hc
  rw [h] at hc
  cases hc

theorem switchBlock_ok {key : Source Value} {cs : List (Value × Chain)} {e : Option Chain}
    (h : switchBlock key cs e = .ok a) : a = .switch key cs e := by
  unfold switchBlock at h
  split at h
  · cases h
  · cases h; rfl

theorem randomBlock_ok {cs : List (Float × Chain)} {e : Option Chain}
    (h : randomBlock cs e = .ok a) : a = .randomSwitch cs e := by
  unfold randomBlock at h
  cases hw : checkWeights cs with
  | error err => rw [hw] at h; cases h
  | ok u => rw [hw] at h; cases h; rfl

end Action

/-- The actions the builder makes. A block is built when its builder function
accepted it and every action of its chains is built; an action that holds no
chain is built as the builder makes it. -/
inductive Action.Built : Action → Prop
  | exec (e : Effect) : Built (.exec e)
  | branch (c : Condition) (t : Chain) (e : Option Chain)
      (hch : ∀ ch ∈ (Action.branch c t e).children, ∀ b ∈ ch, Built b) : Built (.branch c t e)
  | switch {key : Source Value} {cs : List (Value × Chain)} {e : Option Chain} {a : Action}
      (h : switchBlock key cs e = .ok a) (hch : ∀ ch ∈ a.children, ∀ b ∈ ch, Built b) : Built a
  | randomSwitch {cs : List (Float × Chain)} {e : Option Chain} {a : Action}
      (h : randomBlock cs e = .ok a) (hch : ∀ ch ∈ a.children, ∀ b ∈ ch, Built b) : Built a
  | loop {g : LoopGuard} {counter : Option String} {exitAsap : Bool} {body : Chain} {n n' : Nat}
      {a : Action} (h : (loopBlock g counter exitAsap body).run n = .ok (a, n'))
      (hb : ∀ b ∈ body, Built b) : Built a
  | retry {attempts : Source UInt64} {counter : Option String} {body : Chain} {n n' : Nat}
      {a : Action} (h : (retryBlock attempts counter body).run n = .ok (a, n'))
      (hb : ∀ b ∈ body, Built b) : Built a
  | exitBlockOnFail (body : Chain) (hb : ∀ b ∈ body, Built b) : Built (.exitBlockOnFail body)
  | pace (interval : Interval) (counter : String) : Built (.pace interval counter)
  | pause (interval : Interval) : Built (.pause interval)
  | feed (source name : String) : Built (.feed source name)
  | exit (c : ExitCondition) : Built (.exit c)
  | stopInjector (message : Source String) : Built (.stopInjector message)

namespace Action.Built

/-- In a built action no block counts in the counter of a block around it:
every loop and retry block was closed by its builder, whose check saw its whole
body. -/
theorem checks {a : Action} (h : a.Built) : a.Within Action.ChecksCounter := by
  induction h with
  | exec e => exact .of_leaf (checksCounter_of_none rfl) rfl
  | branch c t e _ ih => exact .of_children (checksCounter_of_none rfl) ih
  | switch hs _ ih =>
    obtain rfl := switchBlock_ok hs
    exact .of_children (checksCounter_of_none rfl) ih
  | randomSwitch hr _ ih =>
    obtain rfl := randomBlock_ok hr
    exact .of_children (checksCounter_of_none rfl) ih
  | loop hl _ ih =>
    obtain ⟨hcheck, hch⟩ := loopBlock_checks hl
    exact .of_chain hcheck hch ih
  | retry hr _ ih =>
    obtain ⟨hcheck, hch⟩ := retryBlock_checks hr
    exact .of_chain hcheck hch ih
  | exitBlockOnFail body _ ih => exact .of_chain (checksCounter_of_none rfl) rfl ih
  | pace interval counter => exact .of_leaf (checksCounter_of_none rfl) rfl
  | pause interval => exact .of_leaf (checksCounter_of_none rfl) rfl
  | feed source name => exact .of_leaf (checksCounter_of_none rfl) rfl
  | exit c => exact .of_leaf (checksCounter_of_none rfl) rfl
  | stopInjector message => exact .of_leaf (checksCounter_of_none rfl) rfl

end Action.Built

end LoadScenario
