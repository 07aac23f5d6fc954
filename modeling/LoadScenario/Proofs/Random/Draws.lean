import Mathlib.Data.Nat.Factorial.Basic
import Mathlib.Tactic.Linarith
import LoadScenario.Random.Uniform

/-!
# Draws below a bound, and shuffled orders

An index is drawn below `n` by scaling a random word by `n` and keeping the
high half, with a possible carry from a second word; the carry never reaches
`n` (`below_lt`). A shuffled order of `0 … n-1` swaps each position with one at
or before it, several positions taking their swap targets from one draw below
the product of their ranges; it is a permutation of `0 … n-1`
(`permutation_perm`).

The shuffle's invariant (`go_perm`): the pending chunk encodes `left`
positions, and lies below the product `(i+1) · (i+2) ⋯`, of their ranges,
which is `(i + 1).ascFactorial left`.
-/

namespace LoadScenario.Random.ChaCha

/-! ## Draws below a bound -/

/-- The high half of a word scaled by `range` is below `range`. -/
theorem mulShift_lt {W w range : Nat} (hw : w < W) (hr : 0 < range) : w * range / W < range :=
  Nat.div_lt_of_lt_mul (Nat.mul_lt_mul_of_pos_right hw hr)

/-- The carry is added only when the scaled word's high half is at most
`range - 2`: its low half plus the high half of a second scaled word reaches
the word size only if the first word was not among the last ones. -/
theorem carry_lt {W w w2 range : Nat} (hw : w < W) (hw2 : w2 < W)
    (hcarry : W ≤ w * range % W + w2 * range / W) : w * range / W + 1 < range := by
  have hr : 0 < range := by
    rcases Nat.eq_zero_or_pos range with rfl | h
    · simp at hcarry; omega
    · exact h
  have hhi : w2 * range / W < range := mulShift_lt hw2 hr
  have hsplit := Nat.div_add_mod (w * range) W
  have hbound : w * range + range ≤ W * range := by
    have := Nat.mul_le_mul_right range (Nat.succ_le_of_lt hw)
    rw [Nat.succ_mul] at this
    linarith [Nat.mul_comm W range]
  -- were the high half `range - 1` or more, the low half would be too small to carry
  by_contra hlt
  have hq : W * range ≤ W * (w * range / W) + W := by
    have := Nat.mul_le_mul_left W (Nat.le_of_not_lt hlt)
    linarith [Nat.mul_succ W (w * range / W)]
  omega

/-- A draw from 32-bit words is below its range. -/
theorem belowU32_lt (g : ChaCha) {range : Nat} (hr : 0 < range) : (g.belowU32 range).1 < range := by
  unfold belowU32
  have hw := (g.nextU32).1.toNat_lt
  have hw2 := (g.nextU32.2.nextU32).1.toNat_lt
  dsimp only
  split
  · split
    · exact carry_lt hw hw2 ‹_›
    · exact mulShift_lt hw hr
  · exact mulShift_lt hw hr

/-- A draw from 64-bit words is below its range. -/
theorem belowU64_lt (g : ChaCha) {range : Nat} (hr : 0 < range) : (g.belowU64 range).1 < range := by
  unfold belowU64
  have hw := (g.nextU64).1.toNat_lt
  have hw2 := (g.nextU64.2.nextU64).1.toNat_lt
  dsimp only
  split
  · split
    · exact carry_lt hw hw2 ‹_›
    · exact mulShift_lt hw hr
  · exact mulShift_lt hw hr

/-- An index drawn below a positive `n` is below `n`. -/
theorem below_lt (g : ChaCha) {n : Nat} (hn : 0 < n) : (g.below n).1 < n := by
  unfold below
  split
  · exact belowU32_lt g hn
  · exact belowU64_lt g hn

/-! ## Shuffled orders -/

theorem swapAt_eq_swap {xs : Array Nat} {i j : Nat} (hi : i < xs.size) (hj : j < xs.size) :
    swapAt xs i j = xs.swap i j hi hj := by
  simp [swapAt, Array.swap_def, Array.setIfInBounds_def, hi, hj]

theorem size_swapAt (xs : Array Nat) (i j : Nat) : (swapAt xs i j).size = xs.size := by
  simp [swapAt]

/-- Swapping two positions in range permutes the array. -/
theorem swapAt_perm {xs : Array Nat} {i j : Nat} (hi : i < xs.size) (hj : j < xs.size) :
    (swapAt xs i j).toList.Perm xs.toList := by
  rw [swapAt_eq_swap hi hj]
  exact (Array.swap_perm hi hj).toList

/-- The product grows one factor at a time: it is always an ascending
factorial of `m`, with at least as many factors as it started with. -/
theorem chunkBound_go (m : Nat) :
    ∀ fuel k, 0 < k → ∃ k', k ≤ k' ∧
      chunkBound.go m fuel (m.ascFactorial k) (m + k) = (m.ascFactorial k', k') := by
  intro fuel
  induction fuel with
  | zero => intro k _; exact ⟨k, le_rfl, by simp [chunkBound.go]⟩
  | succ fuel ih =>
    intro k hk
    unfold chunkBound.go
    split
    · have hstep : m.ascFactorial k * (m + k) = m.ascFactorial (k + 1) := by
        rw [Nat.ascFactorial_succ, Nat.mul_comm]
      obtain ⟨k', hk', h⟩ := ih (k + 1) (Nat.succ_pos k)
      exact ⟨k', by omega, by rw [hstep, Nat.add_assoc, h]⟩
    · exact ⟨k, le_rfl, by simp⟩

/-- The bound of a chunk is the product of the ranges of its positions,
`m · (m+1) ⋯`, with at least one factor. -/
theorem chunkBound_spec (m : Nat) : ∃ k, 0 < k ∧ chunkBound m = (m.ascFactorial k, k) := by
  obtain ⟨k, hk, h⟩ := chunkBound_go m 32 1 Nat.one_pos
  have hone : m.ascFactorial 1 = m := by
    rw [Nat.ascFactorial_succ, Nat.ascFactorial_zero, Nat.add_zero, Nat.mul_one]
  refine ⟨k, by omega, ?_⟩
  rw [hone] at h
  exact h

/-- A refill leaves at least one pending position, the chunk within their ranges. -/
theorem refill_pending {i chunk left chunk' left' : Nat} {g g' : ChaCha}
    (h : 0 < left → chunk < (i + 1).ascFactorial left)
    (hr : (if left = 0 then
        match chunkBound (i + 1) with
        | (bound, count) =>
          match g.belowU32 bound with
          | (c, g) => (c, count, g)
      else (chunk, left, g)) = (chunk', left', g')) :
    0 < left' ∧ chunk' < (i + 1).ascFactorial left' := by
  split at hr
  · -- a fresh draw below the product of the next ranges
    obtain ⟨k, hk, hb⟩ := chunkBound_spec (i + 1)
    rw [hb] at hr
    simp only [Prod.mk.injEq] at hr
    obtain ⟨rfl, rfl, -⟩ := hr
    exact ⟨hk, belowU32_lt g (Nat.ascFactorial_pos i k)⟩
  · simp only [Prod.mk.injEq] at hr
    obtain ⟨rfl, rfl, -⟩ := hr
    exact ⟨Nat.pos_of_ne_zero ‹_›, h (Nat.pos_of_ne_zero ‹_›)⟩

/-- Splitting off the next position's draw keeps the rest within their ranges. -/
theorem digit_pending {i chunk left : Nat} (hleft : 0 < left)
    (h : chunk < (i + 1).ascFactorial left) :
    (if left = 1 then (chunk, chunk) else (chunk % (i + 1), chunk / (i + 1))).1 < i + 1 ∧
      (0 < left - 1 → (if left = 1 then (chunk, chunk) else (chunk % (i + 1), chunk / (i + 1))).2 <
        (i + 1 + 1).ascFactorial (left - 1)) := by
  by_cases h1 : left = 1
  · subst h1
    refine ⟨?_, fun h0 => absurd h0 (Nat.lt_irrefl 0)⟩
    simpa [Nat.ascFactorial] using h
  · obtain ⟨l, rfl⟩ : ∃ l, left = l + 1 := ⟨left - 1, by omega⟩
    -- the last position's range is a factor of the product
    have hsplit : (i + 1).ascFactorial (l + 1) = (i + 1 + 1).ascFactorial l * (i + 1) := by
      rw [Nat.ascFactorial_succ, ← Nat.succ_ascFactorial, Nat.mul_comm]
    simp only [h1, if_false, Nat.add_sub_cancel]
    refine ⟨Nat.mod_lt _ (Nat.succ_pos i), fun _ => ?_⟩
    rw [Nat.div_lt_iff_lt_mul (Nat.succ_pos i), ← hsplit]
    exact h

/-- Every step swaps position `i` with one at or before it, so the shuffle
ends with a permutation of the array it started from. The induction is on the
positions left; the pending chunk stays below the product of the ranges of the
positions it encodes. -/
theorem go_perm (fuel : Nat) : ∀ i chunk left (xs : Array Nat) g, i + fuel = xs.size →
    (0 < left → chunk < (i + 1).ascFactorial left) →
    (permutation.go fuel i chunk left xs g).1.toList.Perm xs.toList := by
  induction fuel with
  | zero => intro i chunk left xs g _ _; exact List.Perm.refl _
  | succ fuel ih =>
    intro i chunk left xs g hsize hchunk
    rw [permutation.go]
    split
    next chunk1 left1 g1 hr =>
    obtain ⟨hleft, hlt⟩ := refill_pending hchunk hr
    split
    next j chunk2 hd =>
    have hdigit := digit_pending hleft hlt
    rw [hd] at hdigit
    have hi : i < xs.size := by omega
    have hj : j < xs.size := by have := hdigit.1; omega
    exact (ih (i + 1) chunk2 (left1 - 1) (swapAt xs i j) g1 (by rw [size_swapAt]; omega)
      hdigit.2).trans (swapAt_perm hi hj)

/-- A shuffled order of `0 … n-1` holds each of them exactly once. -/
theorem permutation_perm (g : ChaCha) (n : Nat) : (g.permutation n).1.toList.Perm (List.range n) := by
  unfold permutation
  split
  · simp
  · have h := go_perm (n - 1) 1 0 0 (Array.range n) g (by simp; omega)
      (fun h => absurd h (Nat.lt_irrefl 0))
    simpa using h

end LoadScenario.Random.ChaCha
