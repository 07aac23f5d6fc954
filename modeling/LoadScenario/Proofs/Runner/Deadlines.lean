import LoadScenario.Proofs.Runner.Pacing
import LoadScenario.Proofs.Prog.Ending

/-!
# Drawn intervals and the deadlines they set

A pause or a pace draws an interval, then turns it into a deadline by adding it
to a time point. Both steps have edges. A uniform draw compares its bounds'
seconds as doubles, where rounding can make distinct bounds look equal, and
clamps the drawn duration to the bounds, which aborts for bounds the wrong way
round. A time point far enough ahead lies beyond the clock's range.

`Interval.Drawn` says what a draw may answer: a fixed interval its resolved
length; a uniform one the error of the first bound that does not resolve, else
a length within the bounds, the lower bound when the upper one is not longer.
Assuming only that the bounds' seconds are ordered as the bounds are
(`Interval.SecsMonotone`), every draw ends with such an answer whatever double
the generator yields (`Interval.draw_ends`): the clamp is reached only with
its bounds in order.

A deadline is a checked sum (`Clock.deadline_of_fits`,
`Clock.deadline_of_not_fits`). A pause waits for the time point its interval
after the clock's reading, and a pace sets its next deadline its interval after
the stored one, or after its arrival the first time, when the clock can
represent that point; when it cannot, the session is marked failed
(`pause_deadline`, `pace_deadline`). Pause and pace always end (`pause_ends`,
`pace_ends`); `drawn_waits_stay_in_range` puts it all together.
-/

namespace LoadScenario

open Prog

namespace Duration

variable {d d' lo hi : Duration}

theorem le_def : lo ≤ hi ↔ lo.nanos ≤ hi.nanos := Iff.rfl

theorem lt_def : lo < hi ↔ lo.nanos < hi.nanos := Iff.rfl

/-- A clamp is refused exactly for bounds the wrong way round. -/
theorem clamp?_eq_none_iff : d.clamp? lo hi = none ↔ hi < lo := by
  unfold clamp?
  split <;> simp_all

/-- A clamped duration lies within the bounds. -/
theorem clamp?_mem (h : d.clamp? lo hi = some d') : lo ≤ d' ∧ d' ≤ hi := by
  unfold clamp? at h
  split at h
  · cases h
  · next hlo =>
    cases h
    rw [lt_def] at hlo
    simp only [le_def]
    split
    · omega
    · split
      · next hhi => rw [lt_def] at hhi; omega
      · next hhi hd => rw [lt_def] at hhi hd; omega

end Duration

namespace Clock

variable {t : Nat} {d : Duration}

/-- A deadline the clock can represent is the sum. -/
theorem deadline_of_fits (h : fits (t + d.nanos) = true) : deadline t d = .ok (t + d.nanos) := by
  simp [deadline, after?, h]

/-- A deadline beyond the clock's range is refused, naming the duration. -/
theorem deadline_of_not_fits (h : fits (t + d.nanos) = false) :
    deadline t d = .error (.typeMismatch "duration within the clock's range" d.debugText) := by
  simp [deadline, after?, h]

end Clock

/-! ## Drawing an interval -/

/-- What a draw of an interval may answer for a session: a fixed interval its
resolved length; a uniform one the error of the first bound that does not
resolve, else a length within the bounds, and the lower bound when the upper
one is not longer. -/
def Interval.Drawn (s : Session) : Interval → Except EvalError Duration → Prop
  | .fixed d, r => r = d.resolve s
  | .uniform lo hi, r =>
    match lo.resolve s, hi.resolve s with
    | .error e, _ => r = .error e
    | .ok _, .error e => r = .error e
    | .ok l, .ok h => ∃ d, r = .ok d ∧ (h ≤ l → d = l) ∧ (l < h → l ≤ d ∧ d ≤ h)

/-- The seconds of an interval's bounds, as doubles, are ordered as the bounds
are: an upper bound no longer than the lower one has no more seconds. The
conversion to doubles is monotone; this is the one pair the draw compares. -/
def Interval.SecsMonotone (s : Session) : Interval → Prop
  | .fixed _ => True
  | .uniform lo hi => ∀ l h : Duration, lo.resolve s = .ok l → hi.resolve s = .ok h →
      h ≤ l → h.toSecsFloat ≤ l.toSecsFloat

/-- A draw clamped to bounds in order always ends, within the bounds. -/
theorem Runner.clampDraw_ends {lo hi : Duration} (h : lo ≤ hi) (x : Float) :
    Ends (fun d => lo ≤ d ∧ d ≤ hi) (Runner.clampDraw lo hi x) := by
  unfold Runner.clampDraw
  split
  · next d _ =>
    cases hc : d.clamp? lo hi with
    | none =>
      have hlt := Duration.clamp?_eq_none_iff.mp hc
      rw [Duration.lt_def] at hlt
      rw [Duration.le_def] at h
      omega
    | some d' => exact ends_pure.mpr (Duration.clamp?_mem hc)
  · exact ends_pure.mpr ⟨Nat.le_refl _, h⟩

/-- A draw between two doubles ends with whatever double the generator yields. -/
theorem ends_uniform {P : Float → Prop} {lo hi : Float} : Ends P (uniform lo hi) ↔ ∀ x, P x :=
  ⟨fun h => h.2, fun h => ⟨fun _ => trivial, h⟩⟩

/-- Every draw of an interval ends with an answer `Drawn` allows, whatever
double the generator yields, provided its bounds' seconds are ordered as the
bounds are. -/
theorem Interval.draw_ends (iv : Interval) (s : Session) (hmono : iv.SecsMonotone s) :
    Ends (iv.Drawn s) (iv.draw s) := by
  cases iv with
  | fixed d => exact ends_pure.mpr rfl
  | uniform lo hi =>
    cases hlo : lo.resolve s with
    | error e => simp [Interval.draw, Interval.Drawn, hlo]
    | ok l =>
      cases hhi : hi.resolve s with
      | error e => simp [Interval.draw, Interval.Drawn, hlo, hhi]
      | ok h =>
        by_cases hf : h.toSecsFloat ≤ l.toSecsFloat
        · -- the bounds are not apart as doubles: the lower bound, within the bounds
          simp only [Interval.draw, Interval.Drawn, hlo, hhi, hf, if_true, ends_pure]
          exact ⟨l, rfl, fun _ => rfl, fun hlt => ⟨Nat.le_refl _, Nat.le_of_lt hlt⟩⟩
        · -- apart as doubles, so in order as durations: the clamp keeps the draw within them
          have hlt : l < h := by
            rw [Duration.lt_def]
            exact Nat.lt_of_not_le fun hle => hf (hmono l h hlo hhi hle)
          simp only [Interval.draw, hlo, hhi, hf, if_false]
          refine Ends.bind (ends_uniform.mpr fun _ => trivial) fun x _ => ?_
          refine Ends.bind (Runner.clampDraw_ends (Nat.le_of_lt hlt) x) fun d hd => ?_
          simp only [Interval.Drawn, hlo, hhi, ends_pure]
          refine ⟨d, rfl, fun hle => ?_, fun _ => hd⟩
          rw [Duration.le_def] at hle
          rw [Duration.lt_def] at hlt
          omega

/-! ## Pauses and paces -/

namespace Runner

variable {iv : Interval} {c : String} {s : Session}

theorem total_failNext {action error : String} : Total (failNext s action error) := trivial

theorem total_wait {D : Nat} : Total (wait D) := by
  intro r
  cases r
  · exact fun _ => trivial
  · trivial

/-- A pause always ends, with the session as it was, marked failed, or stopped,
provided its interval's bounds are ordered as doubles as they are. -/
theorem pause_ends (iv : Interval) (s : Session) (hmono : iv.SecsMonotone s) :
    Ends (Flow.Leaf s) (pause iv s) := by
  refine ⟨?_, pause_leaf iv s⟩
  unfold pause
  -- only the draw could abort; every step after it ends
  refine Total.bind (iv.draw_ends s hmono).1 (All.imp (All.true _) fun r _ => ?_)
  split
  · exact total_failNext
  · intro now
    dsimp only [Prog.bind_pure]
    split
    · exact total_failNext
    · exact Total.bind total_wait (All.imp (All.true _) fun b _ => by cases b <;> trivial)

/-- A pace always ends, provided its interval's bounds are ordered as doubles as
they are. -/
theorem pace_ends (iv : Interval) (c : String) (s : Session) (hmono : iv.SecsMonotone s) :
    Ends (Flow.Leaf s) (pace iv c s) := by
  refine ⟨?_, pace_leaf iv c s⟩
  unfold pace
  refine Total.bind (iv.draw_ends s hmono).1 (All.imp (All.true _) fun r _ => ?_)
  split
  · exact total_failNext
  · intro now
    dsimp only [Prog.bind_pure]
    split
    · split
      · trivial
      · exact total_failNext
    · -- the wait for the stored deadline, or the logged overrun, then the next deadline
      refine Total.bind ?_ (All.imp (All.true _) fun go _ => ?_)
      · split
        · exact total_wait
        · trivial
      · split
        · split
          · trivial
          · exact total_failNext
        · trivial

/-- A pause whose interval drew `T`, and which then read the clock at `t`, waits
for the time point `T` after `t` when the clock can represent it, going on if
its time came and stopping if the stop signal cut the wait short; when the
clock cannot represent it, the pause marks the session failed and goes on. -/
theorem pause_deadline {trD rest : List Exchange} {T : Duration} {t : Nat} {flow : Flow}
    (hD : Runs (iv.draw s) trD (.ok T)) (h : Runs (pause iv s) (trD ++ .now t :: rest) flow) :
    (Clock.fits (t + T.nanos) = true →
      ∃ b, Runs (wait (t + T.nanos)) rest b ∧ flow = if b then .next s else .stopped s) ∧
    (Clock.fits (t + T.nanos) = false → flow = .next s.markFailed) := by
  unfold pause at h
  have hrest := Runs.of_bind_of_runs hD h
  obtain ⟨t', rest', htr, h'⟩ := runs_clock_bind.mp hrest
  cases htr
  constructor
  · intro hfit
    rw [Clock.deadline_of_fits hfit] at h'
    obtain ⟨trW, b, tr₂, rfl, hW, hk⟩ := Runs.of_bind h'
    cases b <;>
    · obtain ⟨rfl, rfl⟩ := runs_pure.mp hk
      exact ⟨_, by simpa using hW, rfl⟩
  · intro hfit
    rw [Clock.deadline_of_not_fits hfit] at h'
    exact (runs_failNext.mp h').2

/-- Setting a pace point's next deadline `T` after `t` sets it when the clock
can represent that time point, and marks the session failed otherwise. -/
theorem runs_setDeadline_fits {t : Nat} {T : Duration} {tr : List Exchange} {flow : Flow}
    (h : Runs (match Clock.deadline t T with
      | .ok d => (Pure.pure (Flow.next (s.withPaceDeadline c d)) : Prog Flow)
      | .error e => failNext s "pace" e.message) tr flow) :
    flow = if Clock.fits (t + T.nanos) then .next (s.withPaceDeadline c (t + T.nanos))
      else .next s.markFailed := by
  cases hfit : Clock.fits (t + T.nanos)
  · rw [Clock.deadline_of_not_fits hfit] at h
    exact (runs_failNext.mp h).2
  · rw [Clock.deadline_of_fits hfit] at h
    exact (runs_pure.mp h).2

/-- A pace entry whose interval drew `T`, and which then read the clock at `a`,
is either stopped while it waits for the stored deadline, or sets the next
deadline `T` after the stored one (after `a` at the first entry) when the clock
can represent that time point, and otherwise marks the session failed. -/
theorem pace_deadline {trD rest : List Exchange} {T : Duration} {a : Nat} {flow : Flow}
    (hD : Runs (iv.draw s) trD (.ok T)) (h : Runs (pace iv c s) (trD ++ .now a :: rest) flow) :
    (flow = .stopped s ∧ ∃ D, s.paceDeadline? c = some D ∧ a < D) ∨
      flow = if Clock.fits ((s.paceDeadline? c).getD a + T.nanos)
        then .next (s.withPaceDeadline c ((s.paceDeadline? c).getD a + T.nanos))
        else .next s.markFailed := by
  unfold pace at h
  have hrest := Runs.of_bind_of_runs hD h
  obtain ⟨a', rest', htr, h'⟩ := runs_clock_bind.mp hrest
  cases htr
  cases hd : s.paceDeadline? c with
  | none =>
    -- the first entry sets the deadline after its arrival
    simp only [hd] at h'
    exact .inr (runs_setDeadline_fits h')
  | some D =>
    -- a later entry waits for the stored deadline or logs its overrun, then
    -- sets the next deadline after the stored one
    simp only [hd] at h'
    obtain ⟨trG, go, tr₃, rfl, hG, h₃⟩ := Runs.of_bind h'
    cases go with
    | false =>
      obtain ⟨rfl, rfl⟩ := runs_pure.mp h₃
      by_cases ha : a < D
      · exact .inl ⟨rfl, D, rfl, ha⟩
      · -- an overrun goes on at once: it never answers that the wait was cut
        simp only [ha, if_false] at hG
        obtain ⟨tr', rfl, hE⟩ := runs_emit_bind.mp hG
        cases (runs_pure.mp hE).2
    | true => exact .inr (runs_setDeadline_fits h₃)

end Runner

/-! ## Draws and deadlines never abort -/

/-- Drawing an interval never aborts and stays within the interval's bounds,
whatever double the generator yields, provided the bounds' seconds are ordered
as the bounds are. Pause and pace then always end, and turn the drawn length
into a deadline by a checked sum: a time point the clock cannot represent
marks the session failed. -/
theorem drawn_waits_stay_in_range (iv : Interval) (c : String) (s : Session)
    (hmono : iv.SecsMonotone s) :
    Ends (iv.Drawn s) (iv.draw s) ∧ Ends (Flow.Leaf s) (Runner.pause iv s) ∧
      Ends (Flow.Leaf s) (Runner.pace iv c s) ∧
      (∀ trD T t rest flow, Runs (iv.draw s) trD (.ok T) →
        Runs (Runner.pause iv s) (trD ++ .now t :: rest) flow →
          (Clock.fits (t + T.nanos) = true → ∃ b, Runs (Runner.wait (t + T.nanos)) rest b ∧
            flow = if b then .next s else .stopped s) ∧
          (Clock.fits (t + T.nanos) = false → flow = .next s.markFailed)) ∧
      (∀ trD T a rest flow, Runs (iv.draw s) trD (.ok T) →
        Runs (Runner.pace iv c s) (trD ++ .now a :: rest) flow →
          (flow = .stopped s ∧ ∃ D, s.paceDeadline? c = some D ∧ a < D) ∨
            flow = if Clock.fits ((s.paceDeadline? c).getD a + T.nanos)
              then .next (s.withPaceDeadline c ((s.paceDeadline? c).getD a + T.nanos))
              else .next s.markFailed) :=
  ⟨iv.draw_ends s hmono, Runner.pause_ends iv s hmono, Runner.pace_ends iv c s hmono,
    fun _ _ _ _ _ hD h => Runner.pause_deadline hD h,
    fun _ _ _ _ _ hD h => Runner.pace_deadline hD h⟩

/-- A draw between one and two seconds ends within them, and a pause over it
always ends. -/
theorem second_to_two_seconds_draws_within :
    (Interval.uniform (.const (Duration.ofSecs 1)) (.const (Duration.ofSecs 2))).SecsMonotone
        (Session.new "user" 0) ∧
      Ends ((Interval.uniform (.const (Duration.ofSecs 1)) (.const (Duration.ofSecs 2))).Drawn
        (Session.new "user" 0))
        ((Interval.uniform (.const (Duration.ofSecs 1)) (.const (Duration.ofSecs 2))).draw
          (Session.new "user" 0)) ∧
      Ends (Flow.Leaf (Session.new "user" 0))
        (Runner.pause (.uniform (.const (Duration.ofSecs 1)) (.const (Duration.ofSecs 2)))
          (Session.new "user" 0)) := by
  have hmono : (Interval.uniform (.const (Duration.ofSecs 1)) (.const (Duration.ofSecs 2))).SecsMonotone
      (Session.new "user" 0) := by
    intro l h hl hh hle
    cases hl
    cases hh
    exact absurd hle (by decide)
  have hdraw := drawn_waits_stay_in_range _ "p" _ hmono
  exact ⟨hmono, hdraw.1, hdraw.2.1⟩

end LoadScenario
