import LoadScenario.Prog

/-!
# The requests a run makes

`Prog.All` speaks of results only. Some properties are about the requests a
program makes on the way: which tasks it starts and in what order, what it
read of the stop signal before each start. `Prog.Runs p tr a` says that,
answered as the list `tr` records, `p` makes the requests of `tr` in order
and ends with `a`; each `Prog.Exchange` of `tr` is a request with its answer.

A run of a sequence splits into a run of its first part and a run of the rest
(`Runs.of_bind`), and each request has a law saying what its runs look like,
so a statement about the runs of a program in `do`-notation unfolds into one
about its pieces.

A run is then read for what it tells: the users it starts (`startedUsers`),
and whether its answers keep the stop signal raised once a wait found it so
(`StaysStopped`).
-/

namespace LoadScenario

namespace Prog

variable {α β : Type}

/-- A request of a program together with the answer the run gave it. -/
inductive Exchange where
  | now (t : Nat)
  | sleep (deadline : Nat)
  | wait (deadline : Nat) (timeCame : Bool)
  | yield
  | signal (reason : Option StopReason)
  | stop (reason : StopReason) (first : Bool)
  | draw (low high x : Float)
  | feed (source : String) (r : Except FeederError Record)
  | bump (key : String) (n : Nat)
  | note (key : String) (time : Nat)
  | log (e : Event)
  | spawn (task : Spawn)
  | join (outcomes : List (Option Outcome))

/-- `Runs p tr a`: answered as `tr` records, `p` makes the requests of `tr` in
order and ends with `a`. -/
inductive Runs : Prog α → List Exchange → α → Prop
  | pure (a : α) : Runs (.pure a) [] a
  | now {k : Nat → Prog α} {tr : List Exchange} {a : α} (t : Nat) :
      Runs (k t) tr a → Runs (.now k) (.now t :: tr) a
  | sleep {d : Nat} {k : Prog α} {tr : List Exchange} {a : α} :
      Runs k tr a → Runs (.sleep d k) (.sleep d :: tr) a
  | sleepOrStop {d : Nat} {k : Bool → Prog α} {tr : List Exchange} {a : α} (b : Bool) :
      Runs (k b) tr a → Runs (.sleepOrStop d k) (.wait d b :: tr) a
  | yield {k : Prog α} {tr : List Exchange} {a : α} : Runs k tr a → Runs (.yield k) (.yield :: tr) a
  | signal {k : Option StopReason → Prog α} {tr : List Exchange} {a : α} (r : Option StopReason) :
      Runs (k r) tr a → Runs (.signal k) (.signal r :: tr) a
  | stop {r : StopReason} {k : Bool → Prog α} {tr : List Exchange} {a : α} (b : Bool) :
      Runs (k b) tr a → Runs (.stop r k) (.stop r b :: tr) a
  | draw {lo hi : Float} {k : Float → Prog α} {tr : List Exchange} {a : α} (x : Float) :
      Runs (k x) tr a → Runs (.draw lo hi k) (.draw lo hi x :: tr) a
  | feed {src : String} {k : Except FeederError Record → Prog α} {tr : List Exchange} {a : α}
      (r : Except FeederError Record) : Runs (k r) tr a → Runs (.feed src k) (.feed src r :: tr) a
  | bump {key : String} {k : Nat → Prog α} {tr : List Exchange} {a : α} (n : Nat) :
      Runs (k n) tr a → Runs (.bump key k) (.bump key n :: tr) a
  | note {key : String} {t : Nat} {k : Prog α} {tr : List Exchange} {a : α} :
      Runs k tr a → Runs (.note key t k) (.note key t :: tr) a
  | log {e : Event} {k : Prog α} {tr : List Exchange} {a : α} :
      Runs k tr a → Runs (.log e k) (.log e :: tr) a
  | spawn {t : Spawn} {k : Prog α} {tr : List Exchange} {a : α} :
      Runs k tr a → Runs (.spawn t k) (.spawn t :: tr) a
  | joinUsers {k : List (Option Outcome) → Prog α} {tr : List Exchange} {a : α}
      (os : List (Option Outcome)) : Runs (k os) tr a → Runs (.joinUsers k) (.join os :: tr) a

/-- A run of a sequence is a run of its first part followed by a run of the rest. -/
theorem Runs.of_bind {p : Prog α} {f : α → Prog β} {tr : List Exchange} {b : β}
    (h : Runs (p >>= f) tr b) : ∃ tr₁ a tr₂, tr = tr₁ ++ tr₂ ∧ Runs p tr₁ a ∧ Runs (f a) tr₂ b := by
  change Runs (Prog.bind p f) tr b at h
  induction p generalizing tr with
  | pure a => exact ⟨[], a, tr, rfl, .pure a, h⟩
  | now k ih =>
    cases h with
    | now t h =>
      obtain ⟨tr₁, a, tr₂, rfl, h₁, h₂⟩ := ih t h
      exact ⟨.now t :: tr₁, a, tr₂, rfl, .now t h₁, h₂⟩
  | sleep d k ih =>
    cases h with
    | sleep h =>
      obtain ⟨tr₁, a, tr₂, rfl, h₁, h₂⟩ := ih h
      exact ⟨.sleep d :: tr₁, a, tr₂, rfl, .sleep h₁, h₂⟩
  | sleepOrStop d k ih =>
    cases h with
    | sleepOrStop b h =>
      obtain ⟨tr₁, a, tr₂, rfl, h₁, h₂⟩ := ih b h
      exact ⟨.wait d b :: tr₁, a, tr₂, rfl, .sleepOrStop b h₁, h₂⟩
  | yield k ih =>
    cases h with
    | yield h =>
      obtain ⟨tr₁, a, tr₂, rfl, h₁, h₂⟩ := ih h
      exact ⟨.yield :: tr₁, a, tr₂, rfl, .yield h₁, h₂⟩
  | signal k ih =>
    cases h with
    | signal r h =>
      obtain ⟨tr₁, a, tr₂, rfl, h₁, h₂⟩ := ih r h
      exact ⟨.signal r :: tr₁, a, tr₂, rfl, .signal r h₁, h₂⟩
  | stop r k ih =>
    cases h with
    | stop b h =>
      obtain ⟨tr₁, a, tr₂, rfl, h₁, h₂⟩ := ih b h
      exact ⟨.stop r b :: tr₁, a, tr₂, rfl, .stop b h₁, h₂⟩
  | draw lo hi k ih =>
    cases h with
    | draw x h =>
      obtain ⟨tr₁, a, tr₂, rfl, h₁, h₂⟩ := ih x h
      exact ⟨.draw lo hi x :: tr₁, a, tr₂, rfl, .draw x h₁, h₂⟩
  | feed src k ih =>
    cases h with
    | feed r h =>
      obtain ⟨tr₁, a, tr₂, rfl, h₁, h₂⟩ := ih r h
      exact ⟨.feed src r :: tr₁, a, tr₂, rfl, .feed r h₁, h₂⟩
  | bump key k ih =>
    cases h with
    | bump n h =>
      obtain ⟨tr₁, a, tr₂, rfl, h₁, h₂⟩ := ih n h
      exact ⟨.bump key n :: tr₁, a, tr₂, rfl, .bump n h₁, h₂⟩
  | note key t k ih =>
    cases h with
    | note h =>
      obtain ⟨tr₁, a, tr₂, rfl, h₁, h₂⟩ := ih h
      exact ⟨.note key t :: tr₁, a, tr₂, rfl, .note h₁, h₂⟩
  | log e k ih =>
    cases h with
    | log h =>
      obtain ⟨tr₁, a, tr₂, rfl, h₁, h₂⟩ := ih h
      exact ⟨.log e :: tr₁, a, tr₂, rfl, .log h₁, h₂⟩
  | panic m => cases h
  | spawn t k ih =>
    cases h with
    | spawn h =>
      obtain ⟨tr₁, a, tr₂, rfl, h₁, h₂⟩ := ih h
      exact ⟨.spawn t :: tr₁, a, tr₂, rfl, .spawn h₁, h₂⟩
  | joinUsers k ih =>
    cases h with
    | joinUsers os h =>
      obtain ⟨tr₁, a, tr₂, rfl, h₁, h₂⟩ := ih os h
      exact ⟨.join os :: tr₁, a, tr₂, rfl, .joinUsers os h₁, h₂⟩
  | outOfFuel => cases h

/-! ## Runs of the requests -/

section Requests

variable {tr : List Exchange} {b : β}

@[simp] theorem runs_pure {a : α} {a' : α} : Runs (Pure.pure a : Prog α) tr a' ↔ tr = [] ∧ a' = a :=
  ⟨fun h => by cases h; exact ⟨rfl, rfl⟩, fun ⟨h₁, h₂⟩ => h₁ ▸ h₂ ▸ .pure a⟩

@[simp] theorem runs_clock_bind {f : Nat → Prog β} :
    Runs (clock >>= f) tr b ↔ ∃ t tr', tr = .now t :: tr' ∧ Runs (f t) tr' b :=
  ⟨fun h => by cases h with | now t h => exact ⟨t, _, rfl, h⟩,
    fun ⟨t, _, h₁, h₂⟩ => h₁ ▸ .now t h₂⟩

@[simp] theorem runs_emit_bind {e : Event} {f : Unit → Prog β} :
    Runs (emit e >>= f) tr b ↔ ∃ tr', tr = .log e :: tr' ∧ Runs (f ()) tr' b :=
  ⟨fun h => by cases h with | log h => exact ⟨_, rfl, h⟩, fun ⟨_, h₁, h₂⟩ => h₁ ▸ .log h₂⟩

@[simp] theorem runs_start_bind {t : Spawn} {f : Unit → Prog β} :
    Runs (start t >>= f) tr b ↔ ∃ tr', tr = .spawn t :: tr' ∧ Runs (f ()) tr' b :=
  ⟨fun h => by cases h with | spawn h => exact ⟨_, rfl, h⟩, fun ⟨_, h₁, h₂⟩ => h₁ ▸ .spawn h₂⟩

@[simp] theorem runs_stopped_bind {f : Bool → Prog β} :
    Runs (stopped >>= f) tr b ↔ ∃ r tr', tr = .signal r :: tr' ∧ Runs (f r.isSome) tr' b :=
  ⟨fun h => by cases h with | signal r h => exact ⟨r, _, rfl, h⟩,
    fun ⟨r, _, h₁, h₂⟩ => h₁ ▸ .signal r h₂⟩

@[simp] theorem runs_stopReason_bind {f : Option StopReason → Prog β} :
    Runs (stopReason >>= f) tr b ↔ ∃ r tr', tr = .signal r :: tr' ∧ Runs (f r) tr' b :=
  ⟨fun h => by cases h with | signal r h => exact ⟨r, _, rfl, h⟩,
    fun ⟨r, _, h₁, h₂⟩ => h₁ ▸ .signal r h₂⟩

@[simp] theorem runs_waitUntil_bind {d : Nat} {f : Bool → Prog β} :
    Runs (waitUntil d >>= f) tr b ↔ ∃ c tr', tr = .wait d c :: tr' ∧ Runs (f c) tr' b :=
  ⟨fun h => by cases h with | sleepOrStop c h => exact ⟨c, _, rfl, h⟩,
    fun ⟨c, _, h₁, h₂⟩ => h₁ ▸ .sleepOrStop c h₂⟩

@[simp] theorem runs_raise_bind {r : StopReason} {f : Bool → Prog β} :
    Runs (raise r >>= f) tr b ↔ ∃ c tr', tr = .stop r c :: tr' ∧ Runs (f c) tr' b :=
  ⟨fun h => by cases h with | stop c h => exact ⟨c, _, rfl, h⟩,
    fun ⟨c, _, h₁, h₂⟩ => h₁ ▸ .stop c h₂⟩

@[simp] theorem runs_joinAll_bind {f : List (Option Outcome) → Prog β} :
    Runs (joinAll >>= f) tr b ↔ ∃ os tr', tr = .join os :: tr' ∧ Runs (f os) tr' b :=
  ⟨fun h => by cases h with | joinUsers os h => exact ⟨os, _, rfl, h⟩,
    fun ⟨os, _, h₁, h₂⟩ => h₁ ▸ .joinUsers os h₂⟩

@[simp] theorem runs_panic {m : String} {a : α} : Runs (Prog.panic m : Prog α) tr a ↔ False :=
  ⟨fun h => (by cases h), False.elim⟩

end Requests

/-! ## What a run tells -/

/-- The user a request starts, if it starts one. -/
def Exchange.startedUser? : Exchange → Option Nat
  | .spawn (.user i) => some i
  | _ => none

/-- The users a run starts, in the order it starts them. -/
def startedUsers (tr : List Exchange) : List Nat := tr.filterMap Exchange.startedUser?

@[simp] theorem startedUsers_nil : startedUsers [] = [] := rfl

@[simp] theorem startedUsers_append (tr tr' : List Exchange) :
    startedUsers (tr ++ tr') = startedUsers tr ++ startedUsers tr' := List.filterMap_append

@[simp] theorem startedUsers_cons (x : Exchange) (tr : List Exchange) :
    startedUsers (x :: tr) = x.startedUser?.toList ++ startedUsers tr := by
  cases h : x.startedUser? <;> simp [startedUsers, h]

/-- Answers that keep the stop signal raised: once a wait was cut short by the
signal, no later read finds it unset. The scheduler's answers are such, since
the signal is never lowered. -/
def StaysStopped (tr : List Exchange) : Prop :=
  ∀ pre d post, tr = pre ++ .wait d false :: post → .signal none ∉ post

end Prog

end LoadScenario
