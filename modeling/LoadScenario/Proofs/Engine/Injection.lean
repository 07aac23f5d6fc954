import LoadScenario.Proofs.Prog.Traces
import LoadScenario.Engine.Run

/-!
# The runs of the injection

The injection starts the users one after another. For each it reads the
clock and, if the user's start time is still ahead, waits for it; then it
reads the stop signal: found raised, it logs that the injection halted and
ends; found unset, it starts the user and goes on with the next.

`Engine.Injects` states this as a relation on runs, one constructor per way
a step of the injection can go, and `injects_of_runs` shows that every run of
`Engine.inject` is one of them. What the injection does across a run is then
proved by induction on `Injects`: the users are started in order
(`Injects.startedUsers_eq`), each right after a read that finds the signal
unset once its start time is reached (`Injects.starts_after`), and all of them
unless a read found the signal raised (`Injects.complete_or_halted`).
-/

namespace LoadScenario

open Prog

namespace Engine

/-- The requests by which the injection reaches a start time: a clock reading,
and a wait for the start time when the reading is earlier. -/
inductive ReachesStart (startAt : Nat) : List Exchange → Prop
  | late (t : Nat) (h : startAt ≤ t) : ReachesStart startAt [.now t]
  | early (t : Nat) (h : t < startAt) (c : Bool) : ReachesStart startAt [.now t, .wait startAt c]

namespace ReachesStart

variable {startAt : Nat} {pre : List Exchange}

/-- Reaching a start time starts no user. -/
theorem startedUsers_eq (h : ReachesStart startAt pre) : startedUsers pre = [] := by
  cases h <;> rfl

/-- Under answers that keep the signal raised, a start time reached right
before a read that finds the signal unset was reached in time: the clock read
at or past it, or the wait for it ended because its time came. -/
theorem time_came (h : ReachesStart startAt pre) {tr rest : List Exchange} (hstop : StaysStopped tr)
    (hin : pre ++ .signal none :: rest <:+: tr) :
    (∃ t, startAt ≤ t ∧ pre = [.now t]) ∨ ∃ t, pre = [.now t, .wait startAt true] := by
  cases h with
  | late t h => exact .inl ⟨t, h, rfl⟩
  | early t h c =>
    cases c with
    | true => exact .inr ⟨t, rfl⟩
    | false =>
      -- a wait cut short by the signal, followed by a read that finds it unset
      obtain ⟨front, back, htr⟩ := hin
      exact absurd (by simp) (hstop (front ++ [.now t]) startAt (.signal none :: rest ++ back)
        (by rw [← htr]; simp))

end ReachesStart

/-- The runs of the injection from user `index` on, `n` users left, ending with
how many users were started in all: each user is started after its start
time is reached, right after a read of the signal that finds it unset; a read
that finds it raised is logged and ends the injection. -/
inductive Injects (inj : Injection) (started : Nat) : Nat → Nat → List Exchange → Nat → Prop
  | done (index : Nat) : Injects inj started index 0 [] index
  | halt {index n : Nat} {o : Duration} {pre : List Exchange} (r : StopReason) (e : Event)
      (ho : inj.offset index = .ok o) (hpre : ReachesStart (started + o.nanos) pre) :
      Injects inj started index (n + 1) (pre ++ [.signal (some r), .log e]) index
  | start {index n k : Nat} {o : Duration} {pre rest : List Exchange}
      (ho : inj.offset index = .ok o) (hpre : ReachesStart (started + o.nanos) pre)
      (hrest : Injects inj started (index + 1) n rest k) :
      Injects inj started index (n + 1) (pre ++ [.signal none, .spawn (.user index)] ++ rest) k

/-- Once the start time is reached, a step of the injection reads the signal:
found raised, it logs and ends; found unset, it starts the user and goes on
with the next. -/
theorem runs_inject_after {inj : Injection} {started index n k : Nat} {tr : List Exchange}
    (h : Runs (stopped >>= fun b => if b = true then (emit (.info "stop signal raised, injection halted"
        [("started", Value.ofNat index), ("remaining", Value.ofNat (inj.users - index))]) >>=
          fun _ => Pure.pure index)
        else (start (.user index) >>= fun _ => inject inj started (index + 1) n)) tr k) :
    (∃ r e, tr = [.signal (some r), .log e] ∧ k = index) ∨
      ∃ rest, tr = [.signal none, .spawn (.user index)] ++ rest ∧
        Runs (inject inj started (index + 1) n) rest k := by
  obtain ⟨r, tr₁, rfl, h₁⟩ := runs_stopped_bind.mp h
  cases r with
  | none =>
    obtain ⟨rest, rfl, h₂⟩ := runs_start_bind.mp h₁
    exact .inr ⟨rest, rfl, h₂⟩
  | some r =>
    obtain ⟨tr₂, rfl, h₂⟩ := runs_emit_bind.mp h₁
    obtain ⟨rfl, rfl⟩ := runs_pure.mp h₂
    exact .inl ⟨r, _, rfl, rfl⟩

/-- Every run of the injection is one that `Injects` describes. -/
theorem injects_of_runs {inj : Injection} {started : Nat} (n : Nat) :
    ∀ {index tr k}, Runs (inject inj started index n) tr k → Injects inj started index n tr k := by
  induction n with
  | zero =>
    intro index tr k h
    rw [inject, runs_pure] at h
    obtain ⟨rfl, rfl⟩ := h
    exact .done _
  | succ n ih =>
    intro index tr k h
    rw [inject] at h
    split at h
    · exact absurd h (by simp)
    · next o ho =>
      obtain ⟨t, tr₁, rfl, h₁⟩ := runs_clock_bind.mp h
      dsimp only at h₁
      split at h₁
      · next hlt =>
        -- the clock reads before the start time: wait for it
        obtain ⟨c, tr₂, rfl, h₂⟩ := runs_waitUntil_bind.mp h₁
        rcases runs_inject_after h₂ with ⟨r, e, rfl, rfl⟩ | ⟨rest, rfl, h₃⟩
        · exact .halt r e ho (.early t hlt c)
        · exact .start ho (.early t hlt c) (ih h₃)
      · next hge =>
        rcases runs_inject_after h₁ with ⟨r, e, rfl, rfl⟩ | ⟨rest, rfl, h₃⟩
        · exact .halt r e ho (.late t (Nat.le_of_not_lt hge))
        · exact .start ho (.late t (Nat.le_of_not_lt hge)) (ih h₃)

namespace Injects

variable {inj : Injection} {started index n k : Nat} {tr : List Exchange}

/-- The injection starts the users from `index` on, in order, and no more than
it has left. -/
theorem startedUsers_eq (h : Injects inj started index n tr k) :
    startedUsers tr = List.range' index (k - index) ∧ index ≤ k ∧ k ≤ index + n := by
  induction h with
  | done index => simp
  | halt r e ho hpre => simp [hpre.startedUsers_eq, Exchange.startedUser?]
  | start ho hpre hrest ih =>
    obtain ⟨hus, hle, hge⟩ := ih
    refine ⟨?_, by omega, by omega⟩
    rename_i index n k o pre rest
    have hk : k - index = (k - (index + 1)) + 1 := by omega
    simp [hpre.startedUsers_eq, hus, hk, List.range'_succ, Exchange.startedUser?]

/-- Each user the injection starts is started right after a read that finds
the signal unset, once the user's start time is reached. -/
theorem starts_after (h : Injects inj started index n tr k) {i : Nat} (hi : index ≤ i) (hk : i < k) :
    ∃ o pre, inj.offset i = .ok o ∧ ReachesStart (started + o.nanos) pre ∧
      (pre ++ [.signal none, .spawn (.user i)]) <:+: tr := by
  induction h with
  | done index => omega
  | halt r e ho hpre => omega
  | start ho hpre hrest ih =>
    rename_i index n k o pre rest
    by_cases hfirst : i = index
    · subst hfirst
      exact ⟨o, pre, ho, hpre, (List.prefix_append _ rest).isInfix⟩
    · obtain ⟨o', pre', ho', hpre', hin⟩ := ih (by omega) hk
      exact ⟨o', pre', ho', hpre', hin.trans (List.suffix_append _ rest).isInfix⟩

/-- The injection either starts every user it has left, or finds the signal
raised, logs it and ends there. -/
theorem complete_or_halted (h : Injects inj started index n tr k) :
    k = index + n ∨ ∃ pre r e, tr = pre ++ [.signal (some r), .log e] := by
  induction h with
  | done index => exact .inl rfl
  | halt r e ho hpre => exact .inr ⟨_, r, e, rfl⟩
  | start ho hpre hrest ih =>
    rename_i index n k o pre rest
    rcases ih with hk | ⟨pre', r, e, rfl⟩
    · exact .inl (by omega)
    · exact .inr ⟨pre ++ [.signal none, .spawn (.user index)] ++ pre', r, e, by simp⟩

end Injects

end Engine

end LoadScenario
