import LoadScenario.Proofs.Prog.Traces
import LoadScenario.Proofs.Prog.Outcomes

/-!
# Programs that always end

`Prog.All P p` speaks of the results `p` can end with, and so holds of a
program that panics or runs out of steps. `Prog.Total p` says that `p` does
neither: under any answers to its requests it ends with a result. A program
`Ends` with `P` when it is total and every result satisfies `P`. A sequence is
total when its first part is and every result of it leads to a total rest
(`Total.bind`), and so ends with what its rest ends with (`Ends.bind`).

The answers determine a run: of two runs of one program whose requests agree
up to the end of the shorter, neither goes on past the other, and they end
with the same result (`Runs.unique`). So a run of a sequence whose first part
ran as a known run goes on from that run's result (`Runs.of_bind_of_runs`).
-/

namespace LoadScenario

namespace Prog

variable {α β : Type} {P : α → Prop}

/-- Under any answers to its requests, `p` ends with a result: it never panics
and never runs out of steps. -/
def Total : Prog α → Prop
  | .pure _ => True
  | .now k => ∀ t, Total (k t)
  | .sleep _ k => Total k
  | .sleepOrStop _ k => ∀ b, Total (k b)
  | .yield k => Total k
  | .signal k => ∀ r, Total (k r)
  | .stop _ k => ∀ b, Total (k b)
  | .draw _ _ k => ∀ x, Total (k x)
  | .feed _ k => ∀ r, Total (k r)
  | .bump _ k => ∀ n, Total (k n)
  | .note _ _ k => Total k
  | .log _ k => Total k
  | .panic _ => False
  | .spawn _ k => Total k
  | .joinUsers k => ∀ os, Total (k os)
  | .outOfFuel => False

/-- A sequence whose first part is total, and each of whose results leads to a
total rest, is total. -/
theorem Total.bind {p : Prog α} {f : α → Prog β} (hp : Total p) (hf : All (fun a => Total (f a)) p) :
    Total (p >>= f) := by
  change Total (Prog.bind p f)
  induction p with
  | pure a => exact hf
  | now k ih => exact fun t => ih t (hp t) (hf t)
  | sleep d k ih => exact ih hp hf
  | sleepOrStop d k ih => exact fun b => ih b (hp b) (hf b)
  | yield k ih => exact ih hp hf
  | signal k ih => exact fun r => ih r (hp r) (hf r)
  | stop r k ih => exact fun b => ih b (hp b) (hf b)
  | draw lo hi k ih => exact fun x => ih x (hp x) (hf x)
  | feed s k ih => exact fun r => ih r (hp r) (hf r)
  | bump key k ih => exact fun n => ih n (hp n) (hf n)
  | note key t k ih => exact ih hp hf
  | log e k ih => exact ih hp hf
  | panic m => exact hp.elim
  | spawn t k ih => exact ih hp hf
  | joinUsers k ih => exact fun os => ih os (hp os) (hf os)
  | outOfFuel => exact hp.elim

/-- `p` always ends, and every result it ends with satisfies `P`. -/
def Ends (P : α → Prop) (p : Prog α) : Prop := Total p ∧ All P p

/-- A sequence ends with `Q` when its first part ends with results from which
the rest ends with `Q`. -/
theorem Ends.bind {p : Prog α} {f : α → Prog β} {Q : β → Prop} (hp : Ends P p)
    (hf : ∀ a, P a → Ends Q (f a)) : Ends Q (p >>= f) :=
  ⟨Total.bind hp.1 (hp.2.imp fun a ha => (hf a ha).1), hp.2.bind fun a ha => (hf a ha).2⟩

@[simp]
theorem ends_pure {a : α} : Ends P (Pure.pure a : Prog α) ↔ P a := ⟨fun h => h.2, fun h => ⟨trivial, h⟩⟩

/-! ## The answers determine the run -/

/-- Of two runs of one program whose requests agree as far as both go, neither
goes on past the other, and both end with the same result. -/
theorem Runs.unique {p : Prog α} {tr₁ tr₂ r₁ r₂ : List Exchange} {a b : α} (h₁ : Runs p tr₁ a)
    (h₂ : Runs p tr₂ b) (h : tr₁ ++ r₁ = tr₂ ++ r₂) : tr₁ = tr₂ ∧ a = b := by
  induction h₁ generalizing tr₂ with
  | pure a =>
    cases h₂
    exact ⟨rfl, rfl⟩
  | now _ _ ih | sleep _ ih | sleepOrStop _ _ ih | yield _ ih | signal _ _ ih | stop _ _ ih
  | draw _ _ ih | feed _ _ ih | bump _ _ ih | note _ ih | log _ ih | spawn _ ih
  | joinUsers _ _ ih =>
    -- both runs make the same first request; its answers agree, and the rest is a shorter run
    cases h₂
    rename_i h₂
    obtain ⟨⟨⟩, hrest⟩ := List.cons.inj h
    exact (ih h₂ hrest).imp (congrArg _) id

/-- A run of a sequence whose first part ran as a known run, and whose requests
go on after it, goes on from that run's result. -/
theorem Runs.of_bind_of_runs {p : Prog α} {f : α → Prog β} {tr₁ tr₂ : List Exchange} {a : α}
    {b : β} (h₁ : Runs p tr₁ a) (h : Runs (p >>= f) (tr₁ ++ tr₂) b) : Runs (f a) tr₂ b := by
  obtain ⟨tr₁', a', tr₂', htr, h₁', h₂'⟩ := Runs.of_bind h
  obtain ⟨rfl, rfl⟩ := Runs.unique h₁ h₁' htr
  rw [List.append_cancel_left htr]
  exact h₂'

end Prog

end LoadScenario
