/-!
# Doubles as exact fractions

A finite double is `m · 2^q`, with `m` below `2^53`. `Binary.decode` reads that
pair off the bits, and `ofFraction` rounds a non-negative fraction to the
nearest double, a tie going to the even significand, as IEEE 754 reads a
number. The work is `Nat` arithmetic, so the rounding rule is open to proofs;
the double itself is only assembled from bits at the end.
-/

namespace LoadScenario.Decimal

/-- Rounds `p / q` to the nearest natural number, a tie going to the even one. -/
def roundHalfEven (p q : Nat) : Nat :=
  let r := p / q
  let rem := p % q
  if q < 2 * rem then r + 1 else if 2 * rem = q then r + r % 2 else r

/-- A finite double's magnitude as `significand · 2^exponent`. -/
structure Binary where
  significand : Nat
  exponent : Int
  deriving Repr, Inhabited

/-- The bit pattern of a double as a natural number. -/
def bitsOf (x : Float) : Nat := x.toBits.toNat

/-- Whether the sign bit of a double is set; this holds of `-0.0` too. -/
def signBit (x : Float) : Bool := decide (Nat.pow 2 63 ≤ bitsOf x)

/-- The magnitude of a finite double; `none` for NaN and the infinities. -/
def Binary.decode (x : Float) : Option Binary :=
  let field : Nat := (bitsOf x / Nat.pow 2 52) % 2048
  let frac : Nat := bitsOf x % Nat.pow 2 52
  if field = 2047 then none
  else if field = 0 then some ⟨frac, -1074⟩
  else some ⟨frac + Nat.pow 2 52, (field : Int) - 1075⟩

/-- The fraction `p · 2^e / q` with a natural numerator and denominator. -/
def scaleByPow2 (p q : Nat) (e : Int) : Nat × Nat :=
  if 0 ≤ e then (p * Nat.pow 2 e.toNat, q) else (p, q * Nat.pow 2 (-e).toNat)

/-- Whether `p / q` is at least `2^e`. -/
def atLeastPow2 (p q : Nat) (e : Int) : Bool :=
  let (a, b) := scaleByPow2 q 1 e
  decide (a * 1 ≤ p * b)

/-- `⌊log₂ (p / q)⌋` for positive `p` and `q`: the logarithms of `p` and `q`
place it within one of their difference. -/
def floorLog2 (p q : Nat) : Int :=
  let guess : Int := (p.log2 : Int) - q.log2
  if atLeastPow2 p q guess then guess else guess - 1

/-- Bits of a double from its sign, exponent field and fraction field. -/
def assemble (neg : Bool) (field frac : Nat) : Float :=
  Float.ofBits (UInt64.ofNat ((if neg then Nat.pow 2 63 else 0) + field * Nat.pow 2 52 + frac))

/-- The double nearest to `p / q`, carrying the sign `neg`. A tie goes to the
even significand, a magnitude below half the least subnormal becomes zero, and
one that rounds beyond the largest finite double becomes infinity. -/
def ofFraction (neg : Bool) (p q : Nat) : Float :=
  if p = 0 ∨ q = 0 then assemble neg 0 0
  else
    let b := floorLog2 p q
    if b < -1022 then
      -- subnormal: a fixed exponent of -1074; a significand of 2^52 is the least normal
      let (n, d) := scaleByPow2 p q 1074
      assemble neg 0 (roundHalfEven n d)
    else
      let (n, d) := scaleByPow2 p q (52 - b)
      let m := roundHalfEven n d
      let (m, b) := if m = Nat.pow 2 53 then (Nat.pow 2 52, b + 1) else (m, b)
      if 1023 < b then assemble neg 2047 0
      else assemble neg (b + 1023).toNat (m - Nat.pow 2 52)

/-- The double nearest to the integer `n`. -/
def ofNat (n : Nat) : Float := ofFraction false n 1

/-- The double nearest to the integer `i`. -/
def ofInt (i : Int) : Float := ofFraction (decide (i < 0)) i.natAbs 1

/-- The double nearest to `m · 10^e`, carrying the sign `neg`. -/
def ofDecimal (neg : Bool) (m : Nat) (e : Int) : Float :=
  if 0 ≤ e then ofFraction neg (m * Nat.pow 10 e.toNat) 1 else ofFraction neg m (Nat.pow 10 (-e).toNat)

example : roundHalfEven 5 2 = 2 ∧ roundHalfEven 7 2 = 4 ∧ roundHalfEven 8 3 = 3 := by decide

end LoadScenario.Decimal
