import LoadScenario.Decimal.Binary

/-!
# Reading a decimal number

`readFloat?` accepts the usual text of a floating-point number: an optional
sign, then `inf`, `infinity` or `nan` in any case, or digits with at most one
point and at least one digit, then an optional exponent `e`/`E` with an
optional sign and at least one digit. The value is the double nearest to the
text (so `1e400` is infinity and `1e-400` is zero). `readNat?` and `readInt?`
read 64-bit integers with an optional sign and no other characters.
-/

namespace LoadScenario.Decimal

/-- The value of a decimal digit character. -/
def digitValue (c : Char) : Nat := c.toNat - '0'.toNat

/-- The number written by a list of decimal digits. -/
def digitsValue (ds : List Char) : Nat := ds.foldl (fun n c => 10 * n + digitValue c) 0

/-- Splits an optional leading sign off: whether it was a minus, and the rest. -/
def splitSign : List Char → Bool × List Char
  | '-' :: r => (true, r)
  | '+' :: r => (false, r)
  | r => (false, r)

/-- Lower-cases ASCII letters and leaves every other character alone. -/
def asciiLower (c : Char) : Char := if c.isUpper then Char.ofNat (c.toNat + 32) else c

/-- An exponent beyond this many powers of ten settles a nonzero value as
infinity or zero, whatever its digits are. -/
def exponentCap : Nat := 100000

/-- The exponent part after `e`/`E`: a sign and at least one digit. Very long
exponents are capped, which keeps the value. -/
def readExponent? (cs : List Char) : Option Int :=
  let (neg, ds) := splitSign cs
  if ds.isEmpty || !ds.all Char.isDigit then none
  else
    let n := min (digitsValue ds) exponentCap
    some (if neg then -(n : Int) else n)

/-- The significand and exponent of a decimal text without sign: digits with at
most one point and at least one digit, then an optional exponent. -/
def readUnsigned? (cs : List Char) : Option (Nat × Int) :=
  let whole := cs.takeWhile Char.isDigit
  let (frac, rest) := match cs.dropWhile Char.isDigit with
    | '.' :: r => (r.takeWhile Char.isDigit, r.dropWhile Char.isDigit)
    | r => ([], r)
  if whole.isEmpty && frac.isEmpty then none
  else
    let expo : Option Int := match rest with
      | [] => some 0
      | c :: r => if c = 'e' ∨ c = 'E' then readExponent? r else none
    expo.map fun e => (digitsValue (whole ++ frac), e - frac.length)

/-- The signed infinity. -/
def infinity (neg : Bool) : Float := if neg then -(1.0 / 0.0) else 1.0 / 0.0

/-- The double nearest to `m · 10^e`; far beyond the range of doubles the
answer is settled without computing the power. -/
def ofDecimalCapped (neg : Bool) (m : Nat) (e : Int) : Float :=
  let magnitude : Int := e + (Nat.toDigits 10 m).length
  if m = 0 then ofFraction neg 0 1
  else if 400 < magnitude then infinity neg
  else if magnitude < -400 then ofFraction neg 0 1
  else ofDecimal neg m e

/-- The double nearest to a decimal text, or `none` if the text is not a number. -/
def readFloat? (s : String) : Option Float :=
  let (neg, body) := splitSign s.toList
  let word := String.ofList (body.map asciiLower)
  if word = "inf" ∨ word = "infinity" then some (infinity neg)
  else if word = "nan" then some (0.0 / 0.0)
  else (readUnsigned? body).map fun (m, e) => ofDecimalCapped neg m e

/-- A natural number below `2^64`, written with an optional `+` and digits only. -/
def readNat? (s : String) : Option Nat :=
  let body := match s.toList with
    | '+' :: r => r
    | r => r
  if body.isEmpty || !body.all Char.isDigit then none
  else
    let n := digitsValue body
    if n < Nat.pow 2 64 then some n else none

/-- An integer in the signed 64-bit range, written with an optional sign and digits only. -/
def readInt? (s : String) : Option Int :=
  let (neg, body) := splitSign s.toList
  if body.isEmpty || !body.all Char.isDigit then none
  else
    let n := digitsValue body
    let v : Int := if neg then -(n : Int) else n
    if -(Int.pow 2 63) ≤ v ∧ v < Int.pow 2 63 then some v else none

end LoadScenario.Decimal
