import LoadScenario.Decimal.Shortest

/-!
# Laying out a decimal as text

A `Layout` holds the decisions of one number format: which magnitudes are
written positionally, whether an integral value keeps `.0`, whether a positive
exponent carries `+`, and the words for the values that are not numbers.
`Layout.render` writes the shortest decimal of a double under such a record.
-/

namespace LoadScenario.Decimal

/-- The decisions of one number format. Scientific exponents `E` (with the
value `d.ddd × 10^E`) in `[positionalFrom, positionalBelow)` are written
positionally; `none` bounds mean no bound. -/
structure Layout where
  positionalFrom : Option Int
  positionalBelow : Option Int
  pointZero : Bool
  plusExponent : Bool
  nan : String
  infinity : String

/-- Values in data: positional from `1e-5` up to below `1e16`, an integral value
keeps `.0`, and a positive exponent is written with `+` (`1e+19`, `1.5e-9`). -/
def Layout.data : Layout :=
  ⟨some (-5), some 16, true, true, "NaN", "inf"⟩

/-- Values in messages: always positional, with no `.0` on integral values
(`1`, `100.00000001`, `0.000001`). -/
def Layout.plain : Layout :=
  ⟨none, none, false, false, "NaN", "inf"⟩

/-- Values named in diagnostics: always positional, and an integral value keeps
`.0` (`1.5`, `100.0`, `0.0000001`). -/
def Layout.named : Layout :=
  ⟨none, none, true, false, "NaN", "inf"⟩

/-- `n` zero characters. -/
def zeros (n : Nat) : String := String.ofList (List.replicate n '0')

/-- The digits `ds` (value `ds · 10^k`) written positionally. -/
def positional (pointZero : Bool) (ds : String) (k : Int) : String :=
  let n : Int := ds.length
  if 0 ≤ k then ds ++ zeros k.toNat ++ (if pointZero then ".0" else "")
  else if 0 < n + k then
    let whole := (n + k).toNat
    String.ofList (ds.toList.take whole) ++ "." ++ String.ofList (ds.toList.drop whole)
  else "0." ++ zeros (-(n + k)).toNat ++ ds

/-- The digits `ds` (value `ds · 10^k`) written as `d.ddd` and an exponent. -/
def scientific (plus : Bool) (ds : String) (k : Int) : String :=
  let e : Int := ds.length + k - 1
  let head := String.ofList (ds.toList.take 1)
  let tail := String.ofList (ds.toList.drop 1)
  let frac := if tail.isEmpty then "" else "." ++ tail
  let sign := if e < 0 then "-" else if plus then "+" else ""
  head ++ frac ++ "e" ++ sign ++ toString e.natAbs

/-- Whether the scientific exponent `e` is written positionally. -/
def Layout.isPositional (l : Layout) (e : Int) : Bool :=
  (l.positionalFrom.all fun lo => decide (lo ≤ e)) &&
    (l.positionalBelow.all fun hi => decide (e < hi))

/-- The text of a finite magnitude's shortest decimal. -/
def Layout.digitsText (l : Layout) (d : Digits) : String :=
  let ds := toString d.mantissa
  let e : Int := ds.length + d.exponent - 1
  if l.isPositional e then positional l.pointZero ds d.exponent
  else scientific l.plusExponent ds d.exponent

/-- The text of a double under the layout: a minus sign when the sign bit is
set (so `-0.0` keeps it), then the shortest decimal of the magnitude. -/
def Layout.render (l : Layout) (x : Float) : String :=
  if x.isNaN then l.nan
  else
    let sign := if signBit x then "-" else ""
    match shortestOf x with
    | some d => sign ++ l.digitsText d
    | none => sign ++ l.infinity

end LoadScenario.Decimal
