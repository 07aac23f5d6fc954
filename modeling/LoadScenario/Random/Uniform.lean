import LoadScenario.Random.ChaCha

/-!
# Uniform draws

Draws on top of the word generator:

* a double between `low` and `high`: 52 random bits make a double in
  `[1, 2)`; one less, times `high - low`, plus `low`, is the draw, kept even
  when it rounds up to `high`;
* an index below `n`: a 32-bit word (a 64-bit one when `n` exceeds `2^32`)
  times `n` gives the index in its high half; when the low half shows the
  product may be off, a second word decides whether to carry one;
* a permutation of `0 … n-1`: from the back of the list forwards in effect,
  position `i` swaps with a uniform position at or before it; the random
  positions for several consecutive `i` come from one 32-bit draw below the
  product of their ranges.
-/

namespace LoadScenario.Random

namespace ChaCha

/-- A double in `[1, 2)` with the top 52 bits of a 64-bit word as its fraction. -/
def unitInterval (w : UInt64) : Float :=
  Float.ofBits (((0x3FF : UInt64) <<< 52) ||| (w >>> 12))

/-- A double between `low` and `high`, for finite `low ≤ high` with a finite
difference: one 64-bit word places it in `[low, high)`, and rounding may give
`high` itself. -/
def uniformFloat (g : ChaCha) (low high : Float) : Float × ChaCha :=
  let (w, g) := g.nextU64
  ((unitInterval w - 1.0) * (high - low) + low, g)

/-- A number below `range`, for `0 < range ≤ 2^32`, from 32-bit words. -/
def belowU32 (g : ChaCha) (range : Nat) : Nat × ChaCha :=
  let (w, g) := g.nextU32
  let product := w.toNat * range
  let result := product / Nat.pow 2 32
  let low := product % Nat.pow 2 32
  if (Nat.pow 2 32 - range) % Nat.pow 2 32 < low then
    let (w2, g) := g.nextU32
    let hi2 := (w2.toNat * range) / Nat.pow 2 32
    (if Nat.pow 2 32 ≤ low + hi2 then result + 1 else result, g)
  else (result, g)

/-- A number below `range`, for `0 < range ≤ 2^64`, from 64-bit words. -/
def belowU64 (g : ChaCha) (range : Nat) : Nat × ChaCha :=
  let (w, g) := g.nextU64
  let product := w.toNat * range
  let result := product / Nat.pow 2 64
  let low := product % Nat.pow 2 64
  if (Nat.pow 2 64 - range) % Nat.pow 2 64 < low then
    let (w2, g) := g.nextU64
    let hi2 := (w2.toNat * range) / Nat.pow 2 64
    (if Nat.pow 2 64 ≤ low + hi2 then result + 1 else result, g)
  else (result, g)

/-- A number below `n`, for positive `n`: from 32-bit words when `n - 1` fits 32 bits. -/
def below (g : ChaCha) (n : Nat) : Nat × ChaCha :=
  if n - 1 < Nat.pow 2 32 then g.belowU32 n else g.belowU64 n

/-- The product `m · (m+1) · …` while it fits 32 bits, and how many factors it has. -/
def chunkBound (m : Nat) : Nat × Nat :=
  go 32 m (m + 1)
where
  /-- Multiplies in `current` while the product fits, with `fuel` factors left. -/
  go : Nat → Nat → Nat → Nat × Nat
    | 0, product, current => (product, current - m)
    | fuel + 1, product, current =>
      if product * current < Nat.pow 2 32 then go fuel (product * current) (current + 1)
      else (product, current - m)

/-- Swaps two positions of a list. -/
def swapAt (xs : Array Nat) (i j : Nat) : Array Nat :=
  let a := xs.getD i 0
  let b := xs.getD j 0
  (xs.set! i b).set! j a

/-- The shuffled order of `0 … n-1`. -/
def permutation (g : ChaCha) (n : Nat) : Array Nat × ChaCha :=
  if n ≤ 1 then (Array.range n, g)
  else
    -- the first index is always 0, so it takes no draw
    go (n - 1) 1 0 0 (Array.range n) g
where
  /-- Positions `i` onwards, `chunk` holding `left` pending draws. -/
  go : Nat → Nat → Nat → Nat → Array Nat → ChaCha → Array Nat × ChaCha
    | 0, _, _, _, xs, g => (xs, g)
    | fuel + 1, i, chunk, left, xs, g =>
      let next := i + 1
      let (chunk, left, g) :=
        if left = 0 then
          let (bound, count) := chunkBound next
          let (c, g) := g.belowU32 bound
          (c, count, g)
        else (chunk, left, g)
      let (j, chunk) := if left = 1 then (chunk, chunk) else (chunk % next, chunk / next)
      go fuel next chunk (left - 1) (swapAt xs i j) g

end ChaCha

end LoadScenario.Random
