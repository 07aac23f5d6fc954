import LoadScenario.Decimal.Read
import LoadScenario.Text.Blank

/-!
# Durations

A duration is a whole number of nanoseconds whose seconds fit 64 bits. A
number of seconds given as a double becomes a duration by rounding to the
nearest nanosecond, a tie going to the even count; a negative, NaN or too
large double has none. Duration text is an amount with an optional unit:
`250ms`, `5s`, `2m`, `1h`, or seconds when the unit is missing.
-/

namespace LoadScenario

/-- A span of time in nanoseconds. -/
structure Duration where
  nanos : Nat
  deriving DecidableEq, Repr, Inhabited

namespace Duration

/-- Nanoseconds in a second. -/
def nanosPerSec : Nat := 1000000000

/-- The largest duration: `2^64 - 1` seconds and a second less one nanosecond. -/
def max : Duration := ⟨Nat.pow 2 64 * nanosPerSec - 1⟩

/-- The zero duration. -/
def zero : Duration := ⟨0⟩

/-- Whole seconds. -/
def secs (d : Duration) : Nat := d.nanos / nanosPerSec

/-- Nanoseconds beyond the whole seconds. -/
def subsecNanos (d : Duration) : Nat := d.nanos % nanosPerSec

/-- A number of whole seconds. -/
def ofSecs (n : Nat) : Duration := ⟨n * nanosPerSec⟩

/-- A number of milliseconds. -/
def ofMillis (n : Nat) : Duration := ⟨n * 1000000⟩

/-- Whether the seconds of a nanosecond count fit 64 bits. -/
def fits (n : Nat) : Bool := decide (n ≤ max.nanos)

instance : LE Duration := ⟨fun a b => a.nanos ≤ b.nanos⟩
instance : LT Duration := ⟨fun a b => a.nanos < b.nanos⟩
instance (a b : Duration) : Decidable (a ≤ b) := inferInstanceAs (Decidable (a.nanos ≤ b.nanos))
instance (a b : Duration) : Decidable (a < b) := inferInstanceAs (Decidable (a.nanos < b.nanos))

/-- Why a double is not a duration. -/
inductive FromSecsError where
  | negative
  | overflowOrNaN
  deriving DecidableEq, Repr

/-- The text of a failed conversion from seconds. -/
def FromSecsError.message : FromSecsError → String
  | .negative => "cannot convert float seconds to Duration: value is negative"
  | .overflowOrNaN => "cannot convert float seconds to Duration: value is either too big or NaN"

/-- The duration of a double number of seconds, rounded to the nearest
nanosecond with ties to even. Negative doubles other than `-0.0`, NaN, the
infinities and values from `2^64` on have none. -/
def ofSecsFloat (x : Float) : Except FromSecsError Duration :=
  if x < 0.0 then .error .negative
  else
    match Decimal.Binary.decode x with
    | none => .error .overflowOrNaN
    | some b =>
      let (num, den) := Decimal.scaleByPow2 b.significand 1 b.exponent
      if Nat.pow 2 64 * den ≤ num then .error .overflowOrNaN
      else .ok ⟨Decimal.roundHalfEven (num * nanosPerSec) den⟩

/-- The duration of a double number of seconds, if it has one. -/
def ofSecsFloat? (x : Float) : Option Duration :=
  match ofSecsFloat x with
  | .ok d => some d
  | .error _ => none

/-- The seconds as a double: the whole seconds and the fraction, each rounded,
added as doubles. -/
def toSecsFloat (d : Duration) : Float :=
  Decimal.ofNat d.secs + Decimal.ofNat d.subsecNanos / Decimal.ofNat nanosPerSec

/-- Adds two durations, if the sum still fits. -/
def add? (a b : Duration) : Option Duration :=
  if fits (a.nanos + b.nanos) then some ⟨a.nanos + b.nanos⟩ else none

/-- The difference, or zero when `b` is the longer one. -/
def subSat (a b : Duration) : Duration := ⟨a.nanos - b.nanos⟩

/-- The duration kept within two bounds: the lower bound when it is shorter,
the upper bound when it is longer. Bounds the wrong way round have none. -/
def clamp? (d lo hi : Duration) : Option Duration :=
  if hi < lo then none else some (if d < lo then lo else if hi < d then hi else d)

/-- A duration scaled by a double: the seconds as a double times the factor,
converted back. -/
def mulFloat (d : Duration) (k : Float) : Except FromSecsError Duration :=
  ofSecsFloat (k * d.toSecsFloat)

/-! ## Text -/

/-- The seconds of a duration text: an amount of ASCII digits and points, then
a unit `ms`, `s`, `m`, `h` or none for seconds, blanks allowed around both. -/
def textSeconds? (text : String) : Option Float :=
  let cs := (Text.trim text).toList
  let amount := cs.takeWhile fun c => c.isDigit || c = '.'
  let unit := Text.trim (String.ofList (cs.drop amount.length))
  match Decimal.readFloat? (String.ofList amount) with
  | none => none
  | some a =>
    if unit = "" ∨ unit = "s" then some a
    else if unit = "ms" then some (a / 1000.0)
    else if unit = "m" then some (a * 60.0)
    else if unit = "h" then some (a * 3600.0)
    else none

/-- The duration a text names, like `250ms`, `5s`, `2m`, `1h` or `1.5`. -/
def parse? (text : String) : Option Duration :=
  (textSeconds? text).bind ofSecsFloat?

/-- A whole part and the digits of a fraction, written without trailing zeros. -/
def decimalText (whole : Nat) (frac : Nat) (places : Nat) : String :=
  if frac = 0 then toString whole
  else
    let digits := toString frac
    let padded := String.ofList (List.replicate (places - digits.length) '0') ++ digits
    toString whole ++ "." ++ String.ofList ((padded.toList.reverse.dropWhile (· = '0')).reverse)

/-- The diagnostic text of a duration: seconds when there is a whole second,
else milliseconds, microseconds or nanoseconds, with as many decimals as needed
(`1.5s`, `250ms`, `0ns`). -/
def debugText (d : Duration) : String :=
  if 0 < d.secs then decimalText d.secs d.subsecNanos 9 ++ "s"
  else if 1000000 ≤ d.nanos then decimalText (d.nanos / 1000000) (d.nanos % 1000000) 6 ++ "ms"
  else if 1000 ≤ d.nanos then decimalText (d.nanos / 1000) (d.nanos % 1000) 3 ++ "µs"
  else toString d.nanos ++ "ns"

example : (ofMillis 1500).debugText = "1.5s" ∧ (ofMillis 250).debugText = "250ms" := by decide

end Duration

end LoadScenario
