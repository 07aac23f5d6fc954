import LoadScenario.Proofs.Runner.Requests
import LoadScenario.Proofs.Runner.Counters

/-!
# The rounds of a block

A loop makes passes and a retry block makes attempts: rounds, each a run of the
block's body, counted in the block's counter. `Runner.BodyRun` records one
round's run of the body.

`Session.AtRound` is the invariant both kinds of block carry from round to
round: at the head of round `i` the counter is on top of the stack, unfinished
at iteration `i`, and its attribute reads `i`. A body whose effects keep the
counters leaves the counter's entry alone, so counting the round starts round
`i + 1`, whatever the body wrote to the attribute (`AtRound.counted`), and
leaving the counter finishes it at the round's iteration (`AtRound.leave`).
-/

namespace LoadScenario

open Prog

namespace Runner

/-- A run of a block's body in one round: the session the block was at when it began the round, the session the
body started from, the requests the body made and the flow it ended with. -/
structure BodyRun where
  before : Session
  start : Session
  trace : List Exchange
  flow : Flow

/-- The body run is a run of `body` in scope `sc`, with some step budget. -/
def BodyRun.Of (r : BodyRun) (body : Chain) (sc : Scope) : Prop :=
  ∃ n, Runs (runChain n body r.start sc) r.trace r.flow

/-- Whether the body went on to the block's next round, its flow being `next`. -/
def BodyRun.wentOn (r : BodyRun) : Bool :=
  match r.flow with
  | .next _ => true
  | _ => false

end Runner

namespace Session

variable {s s' s'' : Session} {A : List String} {c name : String} {started i : Nat}

/-- Counting an iteration writes the new count to the counter's attribute. -/
theorem get?_incrementCounter (h : s.incrementCounter name = .ok s') :
    ∃ k, s.counter? name = some k ∧ s'.get? name = some (Value.ofNat (k.iteration + 1)) := by
  unfold incrementCounter at h
  split at h
  · next k hk =>
    split at h
    · cases h
    · cases h
      exact ⟨k, hk, by simp [get?]⟩
  · cases h

/-- Clearing a failure writes no attribute. -/
@[simp]
theorem get?_markSucceeded {x : String} : s.markSucceeded.get? x = s.get? x := rfl

/-- Counting an iteration writes no attribute but the counter's. -/
theorem get?_incrementCounter_of_ne {x : String} (h : s.incrementCounter name = .ok s')
    (hx : x ≠ name) : s'.get? x = s.get? x := by
  unfold incrementCounter at h
  split at h
  · split at h
    · cases h
    · cases h
      exact Fields.get?_insert_of_ne _ _ hx
  · cases h

/-- Entering a counter writes no attribute but the counter's. -/
theorem get?_enterCounter_of_ne {x : String} {now : Nat} (h : s.enterCounter name now = .ok s')
    (hx : x ≠ name) : s'.get? x = s.get? x := by
  unfold enterCounter at h
  split at h
  · cases h
  · cases h
    exact Fields.get?_insert_of_ne _ _ hx

/-- The session at the head of round `i` (a loop's pass, a retry block's
attempt) of the block with counter `c`, entered at `started` inside the counters
`A`: the counter is on top of the stack, unfinished at iteration `i`, and its
attribute reads `i`. -/
structure AtRound (A : List String) (c : String) (started i : Nat) (s : Session) : Prop where
  active : s.active = A ++ [c]
  counter : s.counter? c = some ⟨i, started, none⟩
  attr : s.get? c = some (Value.ofNat i)

/-- The block's counter, left: the stack below it is `A` again and the counter
is finished at iteration `k`. -/
def LeftAt (A : List String) (c : String) (started k : Nat) (s : Session) : Prop :=
  s.active = A ∧ ∃ t, s.counter? c = some ⟨k, started, some t⟩

namespace AtRound

theorem iterationOf (h : s.AtRound A c started i) : s.iterationOf c = i := by
  simp [Session.iterationOf, h.counter]

/-- Entering the counter puts the session at the head of round 0. -/
theorem of_enter (h : s.enterCounter c started = .ok s') : s'.AtRound s.active c started 0 := by
  obtain ⟨-, hact, hcnt, -, -⟩ := enterCounter_ok h
  refine ⟨hact, hcnt, ?_⟩
  unfold enterCounter at h
  split at h
  · cases h
  · cases h
    simp [get?]

/-- A balanced run from the head of a round leaves the counter's entry alone. -/
theorem counter?_of_balanced (h : s.AtRound A c started i) (hbal : s.Balanced s') :
    s'.counter? c = some ⟨i, started, none⟩ :=
  (hbal.counter?_of_mem (by simp [h.active])).trans h.counter

/-- After a balanced body run the round can always be counted. -/
theorem increment_ok (h : s.AtRound A c started i) (hbal : s.Balanced s') :
    ∃ s'', s'.incrementCounter c = .ok s'' := by
  unfold incrementCounter
  rw [h.counter?_of_balanced hbal]
  exact ⟨_, rfl⟩

/-- Counting the round after a balanced body run puts the session at the head
of the next one, whatever the body wrote to the counter's attribute. -/
theorem counted (h : s.AtRound A c started i) (hbal : s.Balanced s')
    (hinc : s'.incrementCounter c = .ok s'') : s''.AtRound A c started (i + 1) := by
  have hc := h.counter?_of_balanced hbal
  obtain ⟨hact, -, ⟨k, hk, -, hk''⟩, -⟩ := incrementCounter_ok hinc
  obtain ⟨k', hk', hattr⟩ := get?_incrementCounter hinc
  rw [hc] at hk hk'
  cases hk
  cases hk'
  exact ⟨hact.trans (hbal.active.trans h.active), hk'', hattr⟩

/-- Leaving the counter after a balanced run finishes it at the round's iteration. -/
theorem leave (h : s.AtRound A c started i) (hbal : s.Balanced s') (t : Nat) :
    (s'.leave c t).LeftAt A c started i := by
  have hmem : c ∈ s'.active := by simp [hbal.active, h.active]
  obtain ⟨hact, hcnt, -⟩ := leave_of_mem (t := t) hmem
  refine ⟨by rw [hact, hbal.active, h.active, eraseLast_append_singleton], t, ?_⟩
  rw [hcnt, h.counter?_of_balanced hbal]
  rfl

end AtRound

end Session

namespace Runner

/-- A run of a body whose effects keep the counters is balanced. -/
theorem BodyRun.balanced {r : BodyRun} {body : Chain} {sc : Scope}
    (hb : ∀ b ∈ body, b.Within Action.KeepsCounters) (hr : r.Of body sc) :
    r.start.Balanced r.flow.session := by
  obtain ⟨n, h⟩ := hr
  exact ((balance_holds n).chain body r.start sc).of_runs h hb

end Runner

end LoadScenario
