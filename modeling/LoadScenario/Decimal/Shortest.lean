import LoadScenario.Decimal.Binary

/-!
# The shortest decimal that reads back

For a positive finite double `x = m · 2^q`, the reals that round to `x` form an
interval around it, with its ends included when `m` is even. `shortest` tries
grids of 1, 2, … 17 significant digits: on each it looks at the two grid points
next to `x`, and the first grid with a point inside the interval wins; of two
such points the nearer one wins, and an exact tie goes to the even digit string.
All comparisons are exact, in `Nat`.
-/

namespace LoadScenario.Decimal

/-- A decimal `mantissa · 10^exponent`. -/
structure Digits where
  mantissa : Nat
  exponent : Int
  deriving Repr, Inhabited, DecidableEq

/-- The number of decimal digits of `n` (one for zero). -/
def digitCount (n : Nat) : Nat := (Nat.toDigits 10 n).length

/-- Compares `a · 10^e` with `b · 2^f` exactly. -/
def compareScaled (a : Nat) (e : Int) (b : Nat) (f : Int) : Ordering :=
  let lhs := a * Nat.pow 10 e.toNat * Nat.pow 2 (-f).toNat
  let rhs := b * Nat.pow 2 f.toNat * Nat.pow 10 (-e).toNat
  compare lhs rhs

/-- `⌊log₁₀ (p / q)⌋` for positive `p` and `q`. -/
def floorLog10 (p q : Nat) : Int :=
  if q ≤ p then (digitCount (p / q) : Int) - 1
  else
    -- the least `t` with `p · 10^t ≥ q` is the digit count of `q / p` or one less
    let d := digitCount (q / p)
    if q ≤ p * Nat.pow 10 (d - 1) then -((d - 1 : Nat) : Int) else -(d : Int)

/-- Drops trailing zero digits, raising the exponent to match. -/
def Digits.trim (d : Digits) : Digits :=
  go (digitCount d.mantissa) d.mantissa d.exponent
where
  /-- At most `fuel` zeros are dropped; a mantissa has fewer zeros than digits. -/
  go : Nat → Nat → Int → Digits
    | 0, m, e => ⟨m, e⟩
    | fuel + 1, m, e =>
      if m ≠ 0 ∧ m % 10 = 0 then go fuel (m / 10) (e + 1) else ⟨m, e⟩

/-- The reals that round to a positive double `m · 2^q`, scaled by four: the
ends are `lo · 2^q` and `hi · 2^q`, included when `closed` holds. The gap below
is half as wide at the bottom of a binade. -/
structure Interval where
  lo : Nat
  hi : Nat
  closed : Bool

/-- The rounding interval of a positive double. -/
def Binary.interval (b : Binary) : Interval :=
  let below := if b.significand = Nat.pow 2 52 ∧ -1074 < b.exponent then 1 else 2
  ⟨4 * b.significand - below, 4 * b.significand + 2, b.significand % 2 == 0⟩

/-- Whether `c · 10^k` lies in the rounding interval of `b`. -/
def Binary.admits (b : Binary) (c : Nat) (k : Int) : Bool :=
  let iv := b.interval
  let above := compareScaled (4 * c) k iv.lo b.exponent
  let below := compareScaled (4 * c) k iv.hi b.exponent
  let aboveOk := above == .gt || (iv.closed && above == .eq)
  let belowOk := below == .lt || (iv.closed && below == .eq)
  aboveOk && belowOk

/-- The candidate on the grid of `n` significant digits, if one reads back. -/
def Binary.onGrid (b : Binary) (e10 : Int) (n : Nat) : Option Digits :=
  let k : Int := e10 - n + 1
  let (num, den) := scaleByPow2 b.significand 1 b.exponent
  -- x / 10^k as the fraction num' / den'
  let num' := num * Nat.pow 10 (-k).toNat
  let den' := den * Nat.pow 10 k.toNat
  let lo := num' / den'
  let hi := lo + 1
  match b.admits lo k, b.admits hi k with
  | true, true =>
    -- the nearer of the two; an exact tie goes to the even one
    match compare (2 * num') ((2 * lo + 1) * den') with
    | .lt => some ⟨lo, k⟩
    | .gt => some ⟨hi, k⟩
    | .eq => some ⟨if lo % 2 = 0 then lo else hi, k⟩
  | true, false => some ⟨lo, k⟩
  | false, true => some ⟨hi, k⟩
  | false, false => none

/-- The shortest decimal that reads back as the positive double `b`, nearest
to it among those of that length, with no trailing zeros. -/
def Binary.shortest (b : Binary) : Digits :=
  if b.significand = 0 then ⟨0, 0⟩
  else
    let (num, den) := scaleByPow2 b.significand 1 b.exponent
    let e10 := floorLog10 num den
    let found := (List.range 17).findSome? fun i => b.onGrid e10 (i + 1)
    let exact : Digits := ⟨num / den, 0⟩
    (found.getD exact).trim

/-- The shortest decimal of a finite double's magnitude; `none` for NaN and infinities. -/
def shortestOf (x : Float) : Option Digits := (Binary.decode x).map Binary.shortest

end LoadScenario.Decimal
