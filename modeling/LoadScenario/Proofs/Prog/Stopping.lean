import LoadScenario.Prog

/-!
# Programs that stop for good

A user finds the stop signal raised in two ways: a read of the signal that
answers raised, or a wait raced against the signal that the signal cuts short.
It may also raise the signal itself. This module gives these moments a
semantics.

`Prog.Halts P p` says that `p` only reads the clock and logs before ending
with a result satisfying `P`: it waits for nothing, reads no signal, starts
nothing and runs out of nothing. `Prog.Watch T P p` says that under any
answers, from the moment `p` finds the signal raised, or raises it for a
reason in `T`, the rest of `p` halts with a result satisfying `P`. A program
that never looks at the signal and raises it for no reason in `T` is
`Prog.Blind T`, and is watched for every `P`.

`Watch.bind` is how statements about sequences are made: the first part is
watched, every result it reaches leads to a watched rest, and every result it
halts with leads to a rest that halts too.
-/

namespace LoadScenario

namespace Prog

variable {α β : Type} {P Q : α → Prop} {T : StopReason → Prop}

/-- `p` only reads the clock and logs before ending with a result satisfying `P`. -/
def Halts (P : α → Prop) : Prog α → Prop
  | .pure a => P a
  | .now k => ∀ t, Halts P (k t)
  | .log _ k => Halts P k
  | _ => False

/-- Under any answers, once `p` finds the stop signal raised, or raises it for a
reason in `T`, the rest of `p` halts with a result satisfying `P`. -/
def Watch (T : StopReason → Prop) (P : α → Prop) : Prog α → Prop
  | .pure _ => True
  | .now k => ∀ t, Watch T P (k t)
  | .sleep _ k => Watch T P k
  | .sleepOrStop _ k => Watch T P (k true) ∧ Halts P (k false)
  | .yield k => Watch T P k
  | .signal k => Watch T P (k none) ∧ ∀ r, Halts P (k (some r))
  | .stop r k => ∀ b, (T r → Halts P (k b)) ∧ Watch T P (k b)
  | .draw _ _ k => ∀ x, Watch T P (k x)
  | .feed _ k => ∀ r, Watch T P (k r)
  | .bump _ k => ∀ n, Watch T P (k n)
  | .note _ _ k => Watch T P k
  | .log _ k => Watch T P k
  | .panic _ => True
  | .spawn _ k => Watch T P k
  | .joinUsers k => ∀ os, Watch T P (k os)
  | .outOfFuel => True

/-- `p` never looks at the stop signal, and raises it for no reason in `T`. -/
def Blind (T : StopReason → Prop) : Prog α → Prop
  | .pure _ => True
  | .now k => ∀ t, Blind T (k t)
  | .sleep _ k => Blind T k
  | .sleepOrStop _ _ => False
  | .yield k => Blind T k
  | .signal _ => False
  | .stop r k => ¬ T r ∧ ∀ b, Blind T (k b)
  | .draw _ _ k => ∀ x, Blind T (k x)
  | .feed _ k => ∀ r, Blind T (k r)
  | .bump _ k => ∀ n, Blind T (k n)
  | .note _ _ k => Blind T k
  | .log _ k => Blind T k
  | .panic _ => True
  | .spawn _ k => Blind T k
  | .joinUsers k => ∀ os, Blind T (k os)
  | .outOfFuel => True

/-! ## Halting -/

/-- A program that halts is watched: it never finds the signal raised. -/
theorem Halts.watch {p : Prog α} (h : Halts P p) : Watch T P p := by
  induction p with
  | pure a => trivial
  | now k ih => exact fun t => ih t (h t)
  | log e k ih => exact ih h
  | _ => exact absurd h id

/-- Halting with a result satisfying `P`, then halting with `Q` on every such
result, is halting with `Q`. -/
theorem Halts.bind {p : Prog α} {f : α → Prog β} {Q : β → Prop} (hp : Halts P p)
    (hf : ∀ a, P a → Halts Q (f a)) : Halts Q (p >>= f) := by
  change Halts Q (Prog.bind p f)
  induction p with
  | pure a => exact hf a hp
  | now k ih => exact fun t => ih t (hp t)
  | log e k ih => exact ih hp
  | _ => exact absurd hp id

theorem Halts.imp {p : Prog α} (h : Halts P p) (hPQ : ∀ a, P a → Q a) : Halts Q p := by
  induction p with
  | pure a => exact hPQ a h
  | now k ih => exact fun t => ih t (h t)
  | log e k ih => exact ih h
  | _ => exact absurd h id

/-! ## Watching -/

/-- A program blind to the signal is watched for every `P`. -/
theorem Blind.watch {p : Prog α} (h : Blind T p) : Watch T P p := by
  induction p with
  | pure a => trivial
  | now k ih => exact fun t => ih t (h t)
  | sleep d k ih => exact ih h
  | sleepOrStop d k ih => exact absurd h id
  | yield k ih => exact ih h
  | signal k ih => exact absurd h id
  | stop r k ih => exact fun b => ⟨fun hr => absurd hr h.1, ih b (h.2 b)⟩
  | draw lo hi k ih => exact fun x => ih x (h x)
  | feed s k ih => exact fun r => ih r (h r)
  | bump key k ih => exact fun n => ih n (h n)
  | note key t k ih => exact ih h
  | log e k ih => exact ih h
  | panic m => trivial
  | spawn t k ih => exact ih h
  | joinUsers k ih => exact fun os => ih os (h os)
  | outOfFuel => trivial

/-- A sequence is watched when its first part is, every result the first part
reaches leads to a watched rest, and every result it halts with, once it found
the signal raised, leads to a rest that halts. -/
theorem Watch.bind {p : Prog α} {f : α → Prog β} {Q : β → Prop} (hp : Watch T P p)
    (hf : ∀ a, Watch T Q (f a)) (hstop : ∀ a, P a → Halts Q (f a)) : Watch T Q (p >>= f) := by
  change Watch T Q (Prog.bind p f)
  induction p with
  | pure a => exact hf a
  | now k ih => exact fun t => ih t (hp t)
  | sleep d k ih => exact ih hp
  | sleepOrStop d k ih => exact ⟨ih true hp.1, hp.2.bind hstop⟩
  | yield k ih => exact ih hp
  | signal k ih => exact ⟨ih none hp.1, fun r => (hp.2 r).bind hstop⟩
  | stop r k ih => exact fun b => ⟨fun hr => ((hp b).1 hr).bind hstop, ih b (hp b).2⟩
  | draw lo hi k ih => exact fun x => ih x (hp x)
  | feed s k ih => exact fun r => ih r (hp r)
  | bump key k ih => exact fun n => ih n (hp n)
  | note key t k ih => exact ih hp
  | log e k ih => exact ih hp
  | panic m => trivial
  | spawn t k ih => exact ih hp
  | joinUsers k ih => exact fun os => ih os (hp os)
  | outOfFuel => trivial

/-- A blind first part needs nothing of the rest but that it is watched. -/
theorem Watch.bind_blind {p : Prog α} {f : α → Prog β} {Q : β → Prop} (hp : Blind T p)
    (hf : ∀ a, Watch T Q (f a)) : Watch T Q (p >>= f) :=
  Watch.bind (P := fun _ => False) hp.watch hf fun _ h => h.elim

/-! ## Requests -/

section Requests

variable {f : Bool → Prog β} {Q : β → Prop}

@[simp] theorem watch_pure {a : α} : Watch T P (Pure.pure a : Prog α) ↔ True := Iff.rfl

@[simp] theorem halts_pure {a : α} : Halts P (Pure.pure a : Prog α) ↔ P a := Iff.rfl

@[simp] theorem watch_clock_bind {g : Nat → Prog β} :
    Watch T Q (clock >>= g) ↔ ∀ t, Watch T Q (g t) := Iff.rfl

@[simp] theorem halts_clock_bind {g : Nat → Prog β} :
    Halts Q (clock >>= g) ↔ ∀ t, Halts Q (g t) := Iff.rfl

@[simp] theorem watch_emit_bind {e : Event} {g : Unit → Prog β} :
    Watch T Q (emit e >>= g) ↔ Watch T Q (g ()) := Iff.rfl

@[simp] theorem halts_emit_bind {e : Event} {g : Unit → Prog β} :
    Halts Q (emit e >>= g) ↔ Halts Q (g ()) := Iff.rfl

@[simp] theorem watch_pass_bind {g : Unit → Prog β} :
    Watch T Q (pass >>= g) ↔ Watch T Q (g ()) := Iff.rfl

@[simp] theorem watch_uniform_bind {lo hi : Float} {g : Float → Prog β} :
    Watch T Q (uniform lo hi >>= g) ↔ ∀ x, Watch T Q (g x) := Iff.rfl

@[simp] theorem watch_nextRecord_bind {src : String} {g : Except FeederError Record → Prog β} :
    Watch T Q (nextRecord src >>= g) ↔ ∀ r, Watch T Q (g r) := Iff.rfl

/-- Reading the signal: a raised signal is found, and the rest must halt. -/
@[simp] theorem watch_stopped_bind :
    Watch T Q (stopped >>= f) ↔ Watch T Q (f false) ∧ Halts Q (f true) :=
  ⟨fun h => ⟨h.1, h.2 .maxDuration⟩, fun h => ⟨h.1, fun _ => h.2⟩⟩

/-- A wait raced against the signal: cut short, the rest must halt. -/
@[simp] theorem watch_waitUntil_bind {d : Nat} :
    Watch T Q (waitUntil d >>= f) ↔ Watch T Q (f true) ∧ Halts Q (f false) := Iff.rfl

@[simp] theorem watch_waitUntil {P : Bool → Prop} {d : Nat} : Watch T P (waitUntil d) ↔ P false :=
  ⟨fun h => h.2, fun h => ⟨trivial, h⟩⟩

/-- Raising the signal for a reason in `T`: the rest must halt. -/
@[simp] theorem watch_raise_bind {r : StopReason} :
    Watch T Q (raise r >>= f) ↔ ∀ b, (T r → Halts Q (f b)) ∧ Watch T Q (f b) := Iff.rfl

end Requests

end Prog

end LoadScenario
