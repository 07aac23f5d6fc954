import LoadScenario.Proofs.Runner.Requests
import LoadScenario.Engine.Run
import LoadScenario.Effects

/-!
# Entering a pace point

A pace point keeps a cadence. Its first entry sets a deadline one target after
the time it arrived; every later entry waits for the deadline if it arrives
before it, or logs the overrun if not, and then sets the next deadline one
target after the old deadline, not after its arrival, so that a late entry
does not shift the ones after it.

`Runner.Paced` lists the ways an entry can go, with the requests it makes in
each, and `paced_of_runs` says that every run of `pace` is one of them. What an
entry does to the stored deadline is `Runner.paceStep`, whatever way it went
(`Paced.deadline`); the deadlines of other pace points stay as they were.

A wait is answered by the scheduler's timer, which fires at the deadline
rounded up to the millisecond, and never for a deadline at or past its last
tick: `Clock.le_of_due` says a timer that has fired has reached its deadline,
so a wait that reports its time came never ends early.
-/

namespace LoadScenario

open Prog

namespace Clock

/-- A deadline that the clock can represent is the time it names. -/
theorem deadline_eq_ok {t r : Nat} {d : Duration} (h : deadline t d = .ok r) : r = t + d.nanos := by
  unfold deadline after? at h
  split at h
  · next hs =>
    split at hs
    · cases hs; cases h; rfl
    · cases hs
  · cases h

/-- The timer for a deadline has fired when the clock reads `now` exactly when
the deadline, rounded up to the millisecond, comes before the last tick and the
clock has reached that millisecond. -/
theorem due_iff (t now : Nat) :
    due t now = true ↔ (t + nanosPerMilli - 1) / nanosPerMilli < lastTick ∧
      (t + nanosPerMilli - 1) / nanosPerMilli * nanosPerMilli ≤ now := by
  by_cases hlt : (t + nanosPerMilli - 1) / nanosPerMilli < lastTick
  · have htick : tick? t = some ((t + nanosPerMilli - 1) / nanosPerMilli) := if_pos hlt
    rw [due, htick, Option.any_some, decide_eq_true_iff]
    exact ⟨fun h => ⟨hlt, h⟩, And.right⟩
  · have htick : tick? t = none := if_neg hlt
    rw [due, htick, Option.any_none]
    exact ⟨Bool.noConfusion, fun h => absurd h.1 hlt⟩

/-- A timer whose deadline rounds up to the last tick or later never fires. -/
theorem due_eq_false {t : Nat} (h : lastTick ≤ (t + nanosPerMilli - 1) / nanosPerMilli) (now : Nat) :
    due t now = false := by
  rw [Bool.eq_false_iff]
  intro hdue
  exact absurd ((due_iff t now).mp hdue).1 (Nat.not_lt.mpr h)

end Clock

/-! ## What the session operations do to the pace deadlines -/

namespace Session

variable {s s' : Session} {c c' name : String}

@[simp] theorem paceDeadline?_withPaceDeadline_self (d : Nat) :
    (s.withPaceDeadline c d).paceDeadline? c = some d :=
  Fields.get?_insert_self _ _ _

theorem paceDeadline?_withPaceDeadline_of_ne (d : Nat) (h : c' ≠ c) :
    (s.withPaceDeadline c d).paceDeadline? c' = s.paceDeadline? c' :=
  Fields.get?_insert_of_ne _ _ h

@[simp] theorem paceDeadline?_withStatus (st : Status) :
    (s.withStatus st).paceDeadline? c = s.paceDeadline? c := rfl

@[simp] theorem paceDeadline?_markFailed : s.markFailed.paceDeadline? c = s.paceDeadline? c := rfl

@[simp] theorem paceDeadline?_markSucceeded : s.markSucceeded.paceDeadline? c = s.paceDeadline? c :=
  rfl

@[simp] theorem paceDeadline?_set (key : String) (v : Value) :
    (s.set key v).paceDeadline? c = s.paceDeadline? c := rfl

@[simp] theorem paceDeadline?_setAll (entries : List (String × Value)) :
    (s.setAll entries).paceDeadline? c = s.paceDeadline? c := by
  induction entries generalizing s with
  | nil => rfl
  | cons e rest ih => exact ih

@[simp] theorem paceDeadline?_leave (t : Nat) :
    (s.leave name t).paceDeadline? c = s.paceDeadline? c := by
  unfold leave exitCounter
  split
  · next s'' h =>
    split at h
    · cases h; rfl
    · cases h
  · rfl

theorem paceDeadline?_of_enterCounter {now : Nat} (h : s.enterCounter name now = .ok s') :
    s'.paceDeadline? c = s.paceDeadline? c := by
  unfold enterCounter at h
  split at h
  · cases h
  · cases h; rfl

theorem paceDeadline?_of_incrementCounter (h : s.incrementCounter name = .ok s') :
    s'.paceDeadline? c = s.paceDeadline? c := by
  unfold incrementCounter at h
  split at h
  · split at h
    · cases h
    · cases h; rfl
  · cases h

end Session

/-- An effect that leaves every pace deadline as it found it. -/
def Effect.KeepsPace (e : Effect) : Prop :=
  ∀ s : Session, All (fun s' => s'.paceDeadlines = s.paceDeadlines) (e.apply s)

/-- An action whose own effect, if it has one, keeps the pace deadlines. -/
def Action.KeepsPace : Action → Prop
  | .exec e => e.KeepsPace
  | _ => True

namespace Runner

@[simp] theorem paceDeadline?_bindElement (plan : Plan) (g : LoopGuard) (iteration : Nat)
    (s : Session) (c : String) :
    (bindElement plan g iteration s).paceDeadline? c = s.paceDeadline? c := by
  unfold bindElement
  split
  · split <;> rfl
  · rfl

/-! ## An entry into a pace point -/

variable {tr : List Exchange} {b : Bool}

/-- A wait asks for the stop signal, and unless the run stopped, waits for the
deadline; it reports whether its time came. -/
theorem runs_wait {D : Nat} :
    Runs (wait D) tr b ↔
      (∃ r, tr = [.signal (some r)] ∧ b = false) ∨ tr = [.signal none, .wait D b] := by
  constructor
  · intro h
    obtain ⟨r, tr', rfl, hr⟩ := runs_stopped_bind.1 h
    cases r with
    | some r =>
      obtain ⟨rfl, rfl⟩ := runs_pure.1 hr
      exact .inl ⟨r, rfl, rfl⟩
    | none =>
      obtain ⟨b', tr'', rfl, hw⟩ := runs_waitUntil_bind.1 hr
      obtain ⟨rfl, rfl⟩ := runs_pure.1 hw
      exact .inr rfl
  · rintro (⟨r, rfl, rfl⟩ | rfl)
    · exact .signal (some r) (.pure false)
    · exact .signal none (.sleepOrStop b (.pure b))

/-- What an entry does to the stored deadline: an entry that went on with
arrival `a` and target `T` sets it a target after the old one, or after the
arrival if there was none; any other entry leaves it. -/
def paceStep (d : Option Nat) : Option (Nat × Nat) → Option Nat
  | none => d
  | some (a, T) => some (d.getD a + T)

section Paced

variable (iv : Interval) (c : String) (s : Session)

/-- The ways an entry into the pace point `c` can go, with the requests it makes
and the arrival and target it goes on with, if it does. -/
inductive Paced : List Exchange → Flow → Option (Nat × Nat) → Prop
  /-- The interval or the next deadline could not be had: the session is marked failed. -/
  | failed {tr : List Exchange} : Paced tr (.next s.markFailed) none
  /-- The first entry sets the deadline a target after its arrival and goes on at once. -/
  | first {trD : List Exchange} {T : Duration} {a : Nat} (hT : Runs (iv.draw s) trD (.ok T))
      (hd : s.paceDeadline? c = none) :
      Paced (trD ++ [.now a]) (.next (s.withPaceDeadline c (a + T.nanos))) (some (a, T.nanos))
  /-- An entry before the deadline waits for it, then sets the next one a target after it. -/
  | waited {trD : List Exchange} {T : Duration} {a D : Nat} (hT : Runs (iv.draw s) trD (.ok T))
      (hd : s.paceDeadline? c = some D) (ha : a < D) :
      Paced (trD ++ [.now a, .signal none, .wait D true])
        (.next (s.withPaceDeadline c (D + T.nanos))) (some (a, T.nanos))
  /-- An entry at or after the deadline logs the overrun and goes on at once; the
  next deadline is still a target after the missed one. -/
  | overran {trD : List Exchange} {T : Duration} {a D : Nat} (hT : Runs (iv.draw s) trD (.ok T))
      (hd : s.paceDeadline? c = some D) (ha : D ≤ a) :
      Paced (trD ++ [.now a, .log (.warn "pace interval overrun, proceeding immediately"
          [("pace", .string c), ("overrun_ms",
            Value.ofNat (min ((a - D) / Clock.nanosPerMilli) (Nat.pow 2 64 - 1)))])])
        (.next (s.withPaceDeadline c (D + T.nanos))) (some (a, T.nanos))
  /-- An entry whose wait the stop signal cut stops with the session as it was. -/
  | cut {trD trW : List Exchange} {T : Duration} {a D : Nat} (hT : Runs (iv.draw s) trD (.ok T))
      (hd : s.paceDeadline? c = some D) (ha : a < D)
      (hw : (∃ r, trW = [.signal (some r)]) ∨ trW = [.signal none, .wait D false]) :
      Paced (trD ++ .now a :: trW) (.stopped s) none

end Paced

variable {iv : Interval} {c : String} {s : Session} {flow : Flow}

/-- Setting the next deadline a target after `t` goes on with it, or fails when
the clock cannot represent it. -/
theorem runs_setDeadline {t : Nat} {T : Duration} :
    Runs (match Clock.deadline t T with
      | .ok d => (Pure.pure (Flow.next (s.withPaceDeadline c d)) : Prog Flow)
      | .error e => failNext s "pace" e.message) tr flow →
      (tr = [] ∧ flow = .next (s.withPaceDeadline c (t + T.nanos))) ∨ flow = .next s.markFailed := by
  intro h
  cases hdl : Clock.deadline t T with
  | error e =>
    rw [hdl] at h
    exact .inr (runs_failNext.1 h).2
  | ok d =>
    rw [hdl, runs_pure] at h
    exact .inl ⟨h.1, Clock.deadline_eq_ok hdl ▸ h.2⟩

/-- Every run of a pace is one of the ways `Paced` lists. -/
theorem paced_of_runs (h : Runs (pace iv c s) tr flow) : ∃ went, Paced iv c s tr flow went := by
  obtain ⟨trD, r, tr₁, rfl, hD, h₁⟩ := Runs.of_bind h
  cases r with
  | error e => exact ⟨none, (runs_failNext.1 h₁).2 ▸ .failed⟩
  | ok T =>
    obtain ⟨a, tr₂, rfl, h₂⟩ := runs_clock_bind.1 h₁
    cases hd : s.paceDeadline? c with
    | none =>
      simp only [hd] at h₂
      rcases runs_setDeadline h₂ with ⟨rfl, rfl⟩ | rfl
      · exact ⟨_, .first hD hd⟩
      · exact ⟨none, .failed⟩
    | some D =>
      simp only [hd] at h₂
      obtain ⟨trG, go, tr₃, rfl, hG, h₃⟩ := Runs.of_bind h₂
      by_cases ha : a < D
      · simp only [ha, if_true] at hG
        rcases runs_wait.1 hG with ⟨r, rfl, rfl⟩ | rfl
        · obtain ⟨rfl, rfl⟩ := runs_pure.1 h₃
          exact ⟨none, by simpa using Paced.cut hD hd ha (.inl ⟨r, rfl⟩)⟩
        · cases go with
          | false =>
            obtain ⟨rfl, rfl⟩ := runs_pure.1 h₃
            exact ⟨none, Paced.cut hD hd ha (.inr rfl)⟩
          | true =>
            rcases runs_setDeadline h₃ with ⟨rfl, rfl⟩ | rfl
            · exact ⟨_, by simpa using Paced.waited hD hd ha⟩
            · exact ⟨none, .failed⟩
      · simp only [ha, if_false] at hG
        obtain ⟨tr', rfl, hE⟩ := runs_emit_bind.1 hG
        obtain ⟨rfl, rfl⟩ := runs_pure.1 hE
        rcases runs_setDeadline h₃ with ⟨rfl, rfl⟩ | rfl
        · exact ⟨_, by simpa using Paced.overran hD hd (Nat.le_of_not_lt ha)⟩
        · exact ⟨none, .failed⟩

namespace Paced

variable {went : Option (Nat × Nat)}

/-- What an entry does to its own pace point's deadline is `paceStep`. -/
theorem deadline (h : Paced iv c s tr flow went) :
    flow.session.paceDeadline? c = paceStep (s.paceDeadline? c) went := by
  cases h with
  | failed => rfl
  | first _ hd => simp [paceStep, hd, Flow.session]
  | waited _ hd _ => simp [paceStep, hd, Flow.session]
  | overran _ hd _ => simp [paceStep, hd, Flow.session]
  | cut => rfl

/-- An entry leaves the deadline of every other pace point alone. -/
theorem deadline_of_ne {c' : String} (h : Paced iv c s tr flow went) (hc : c' ≠ c) :
    flow.session.paceDeadline? c' = s.paceDeadline? c' := by
  cases h with
  | failed | cut => rfl
  | first | waited | overran => exact Session.paceDeadline?_withPaceDeadline_of_ne _ hc

end Paced

end Runner

end LoadScenario
