import LoadScenario.Prog

/-!
# Every outcome of a program

`Prog.All P p` says that every result `p` can end with, whatever the run
answers to its requests, satisfies `P`. A program that gives no result (it
panics, or its step budget runs out) satisfies every such statement.

This module gives `All` the rules that proofs about programs are made of:
it is monotone in `P`, it distributes over `>>=` in both directions, and each
request of the run turns into a statement about every answer the run may give.
With these tagged `@[simp]`, a statement about a program written in
`do`-notation unfolds into one about its pieces, and no proof has to look at
the constructors of `Prog` again.
-/

namespace LoadScenario

namespace Prog

variable {α β : Type} {P Q : α → Prop}

/-! ## Monotonicity -/

/-- A property of every result follows from a stronger one. -/
theorem All.imp {p : Prog α} (hp : All P p) (hPQ : ∀ a, P a → Q a) : All Q p := by
  induction p with
  | pure a => exact hPQ a hp
  | now k ih => exact fun t => ih t (hp t)
  | sleep d k ih => exact ih hp
  | sleepOrStop d k ih => exact fun b => ih b (hp b)
  | yield k ih => exact ih hp
  | signal k ih => exact fun r => ih r (hp r)
  | stop r k ih => exact fun b => ih b (hp b)
  | draw lo hi k ih => exact fun x => ih x (hp x)
  | feed s k ih => exact fun r => ih r (hp r)
  | bump key k ih => exact fun n => ih n (hp n)
  | note key t k ih => exact ih hp
  | log e k ih => exact ih hp
  | panic m => trivial
  | spawn t k ih => exact ih hp
  | joinUsers k ih => exact fun os => ih os (hp os)
  | outOfFuel => trivial

/-- Every result of every program satisfies the trivial property. -/
theorem All.true (p : Prog α) : All (fun _ => True) p := by
  induction p with
  | pure a => trivial
  | now k ih => exact ih
  | sleep d k ih => exact ih
  | sleepOrStop d k ih => exact ih
  | yield k ih => exact ih
  | signal k ih => exact ih
  | stop r k ih => exact ih
  | draw lo hi k ih => exact ih
  | feed s k ih => exact ih
  | bump key k ih => exact ih
  | note key t k ih => exact ih
  | log e k ih => exact ih
  | panic m => trivial
  | spawn t k ih => exact ih
  | joinUsers k ih => exact ih
  | outOfFuel => trivial

/-- A family of properties of every result gives, for every result, all of
them at once. -/
theorem All.forall {ι : Sort _} {P : ι → α → Prop} {p : Prog α} (h : ∀ i, All (P i) p) :
    All (fun a => ∀ i, P i a) p := by
  induction p with
  | pure a => exact h
  | now k ih => exact fun t => ih t fun i => h i t
  | sleep d k ih => exact ih h
  | sleepOrStop d k ih => exact fun b => ih b fun i => h i b
  | yield k ih => exact ih h
  | signal k ih => exact fun r => ih r fun i => h i r
  | stop r k ih => exact fun b => ih b fun i => h i b
  | draw lo hi k ih => exact fun x => ih x fun i => h i x
  | feed s k ih => exact fun r => ih r fun i => h i r
  | bump key k ih => exact fun n => ih n fun i => h i n
  | note key t k ih => exact ih h
  | log e k ih => exact ih h
  | panic m => trivial
  | spawn t k ih => exact ih h
  | joinUsers k ih => exact fun os => ih os fun i => h i os
  | outOfFuel => trivial

/-- A property of every result under a hypothesis that does not depend on the
result follows from the property under that hypothesis. -/
theorem All.under {H : Prop} {p : Prog α} (h : H → All P p) : All (fun a => H → P a) p :=
  All.forall h

/-! ## Sequencing -/

/-- Every result of a sequence satisfies `Q` exactly when every result of its
first part leads to a second part all of whose results satisfy `Q`. -/
@[simp]
theorem all_bind {Q : β → Prop} {p : Prog α} {f : α → Prog β} :
    All Q (p >>= f) ↔ All (fun a => All Q (f a)) p := by
  refine ⟨fun h => ?_, fun h => All.bind h fun _ ha => ha⟩
  change All Q (Prog.bind p f) at h
  induction p with
  | pure a => exact h
  | now k ih => exact fun t => ih t (h t)
  | sleep d k ih => exact ih h
  | sleepOrStop d k ih => exact fun b => ih b (h b)
  | yield k ih => exact ih h
  | signal k ih => exact fun r => ih r (h r)
  | stop r k ih => exact fun b => ih b (h b)
  | draw lo hi k ih => exact fun x => ih x (h x)
  | feed s k ih => exact fun r => ih r (h r)
  | bump key k ih => exact fun n => ih n (h n)
  | note key t k ih => exact ih h
  | log e k ih => exact ih h
  | panic m => trivial
  | spawn t k ih => exact ih h
  | joinUsers k ih => exact fun os => ih os (h os)
  | outOfFuel => trivial

/-- Two continuations that agree on every result of `p` make the same sequence. -/
theorem bind_congr {p : Prog α} {f g : α → Prog β} (h : All (fun a => f a = g a) p) :
    p >>= f = p >>= g := by
  change Prog.bind p f = Prog.bind p g
  induction p with
  | pure a => exact h
  | now k ih => exact congrArg Prog.now (funext fun t => ih t (h t))
  | sleep d k ih => exact congrArg (Prog.sleep d) (ih h)
  | sleepOrStop d k ih => exact congrArg (Prog.sleepOrStop d) (funext fun b => ih b (h b))
  | yield k ih => exact congrArg Prog.yield (ih h)
  | signal k ih => exact congrArg Prog.signal (funext fun r => ih r (h r))
  | stop r k ih => exact congrArg (Prog.stop r) (funext fun b => ih b (h b))
  | draw lo hi k ih => exact congrArg (Prog.draw lo hi) (funext fun x => ih x (h x))
  | feed s k ih => exact congrArg (Prog.feed s) (funext fun r => ih r (h r))
  | bump key k ih => exact congrArg (Prog.bump key) (funext fun n => ih n (h n))
  | note key t k ih => exact congrArg (Prog.note key t) (ih h)
  | log e k ih => exact congrArg (Prog.log e) (ih h)
  | panic m => rfl
  | spawn t k ih => exact congrArg (Prog.spawn t) (ih h)
  | joinUsers k ih => exact congrArg Prog.joinUsers (funext fun os => ih os (h os))
  | outOfFuel => rfl

@[simp]
theorem all_pure {a : α} : All P (Pure.pure a : Prog α) ↔ P a := Iff.rfl

@[simp]
theorem all_ite {c : Prop} [Decidable c] {p q : Prog α} :
    All P (if c then p else q) ↔ (c → All P p) ∧ (¬ c → All P q) := by
  by_cases h : c <;> simp [h]

/-! ## Requests -/

@[simp]
theorem all_clock {P : Nat → Prop} : All P clock ↔ ∀ t, P t := Iff.rfl

@[simp]
theorem all_stopped {P : Bool → Prop} : All P stopped ↔ P true ∧ P false := by
  constructor
  · intro h
    exact ⟨h (some .maxDuration), h none⟩
  · rintro ⟨ht, hf⟩ (_ | _)
    · exact hf
    · exact ht

@[simp]
theorem all_waitUntil {P : Bool → Prop} {d : Nat} : All P (waitUntil d) ↔ ∀ b, P b := Iff.rfl

@[simp]
theorem all_pass {P : Unit → Prop} : All P pass ↔ P () := Iff.rfl

@[simp]
theorem all_emit {P : Unit → Prop} {e : Event} : All P (emit e) ↔ P () := Iff.rfl

@[simp]
theorem all_uniform {P : Float → Prop} {lo hi : Float} : All P (uniform lo hi) ↔ ∀ x, P x :=
  Iff.rfl

@[simp]
theorem all_nextRecord {P : Except FeederError Record → Prop} {src : String} :
    All P (nextRecord src) ↔ ∀ r, P r := Iff.rfl

@[simp]
theorem all_raise {P : Bool → Prop} {r : StopReason} : All P (raise r) ↔ ∀ b, P b := Iff.rfl

@[simp]
theorem all_outOfFuel : All P outOfFuel ↔ True := Iff.rfl

/-! ## Results a program can end with -/

/-- `p` can end with `a`: some answers of the run to its requests lead it there. -/
inductive Yields : Prog α → α → Prop
  | pure (a : α) : Yields (.pure a) a
  | now {k : Nat → Prog α} {a : α} (t : Nat) : Yields (k t) a → Yields (.now k) a
  | sleep {d : Nat} {k : Prog α} {a : α} : Yields k a → Yields (.sleep d k) a
  | sleepOrStop {d : Nat} {k : Bool → Prog α} {a : α} (b : Bool) :
      Yields (k b) a → Yields (.sleepOrStop d k) a
  | yield {k : Prog α} {a : α} : Yields k a → Yields (.yield k) a
  | signal {k : Option StopReason → Prog α} {a : α} (r : Option StopReason) :
      Yields (k r) a → Yields (.signal k) a
  | stop {r : StopReason} {k : Bool → Prog α} {a : α} (b : Bool) :
      Yields (k b) a → Yields (.stop r k) a
  | draw {lo hi : Float} {k : Float → Prog α} {a : α} (x : Float) :
      Yields (k x) a → Yields (.draw lo hi k) a
  | feed {src : String} {k : Except FeederError Record → Prog α} {a : α}
      (r : Except FeederError Record) : Yields (k r) a → Yields (.feed src k) a
  | bump {key : String} {k : Nat → Prog α} {a : α} (n : Nat) :
      Yields (k n) a → Yields (.bump key k) a
  | note {key : String} {t : Nat} {k : Prog α} {a : α} : Yields k a → Yields (.note key t k) a
  | log {e : Event} {k : Prog α} {a : α} : Yields k a → Yields (.log e k) a
  | spawn {t : Spawn} {k : Prog α} {a : α} : Yields k a → Yields (.spawn t k) a
  | joinUsers {k : List (Option Outcome) → Prog α} {a : α} (os : List (Option Outcome)) :
      Yields (k os) a → Yields (.joinUsers k) a

/-- What holds of every result holds of each result the program can end with. -/
theorem All.of_yields {p : Prog α} {a : α} (h : All P p) (hy : Yields p a) : P a := by
  induction hy with
  | pure a => exact h
  | now t _ ih => exact ih (h t)
  | sleep _ ih => exact ih h
  | sleepOrStop b _ ih => exact ih (h b)
  | yield _ ih => exact ih h
  | signal r _ ih => exact ih (h r)
  | stop b _ ih => exact ih (h b)
  | draw x _ ih => exact ih (h x)
  | feed r _ ih => exact ih (h r)
  | bump n _ ih => exact ih (h n)
  | note _ ih => exact ih h
  | log _ ih => exact ih h
  | spawn _ ih => exact ih h
  | joinUsers os _ ih => exact ih (h os)

end Prog

end LoadScenario
