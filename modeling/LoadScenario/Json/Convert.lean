import LoadScenario.Json.Write
import LoadScenario.EvalError
import LoadScenario.Duration

/-!
# Typed views of values

`OfValue α` reads a value as an `α`, failing with a type mismatch that names
what was expected and shows the value's JSON text. Text is accepted where it
spells the value after trimming blanks: `"true"`, `" 7 "`, `"250ms"`. A number
counts as seconds when a duration is asked for.

`Value.equal` is the equality of conditions and switches: two numbers are equal
when both are integers with the same value, or, when either is a double, when
they differ by less than the spacing of doubles at one; other values are equal
when they are the same JSON value, numbers inside compared by kind and value.
-/

namespace LoadScenario

/-- Reading a value as a typed value. -/
class OfValue (α : Type) where
  ofValue : Value → Except EvalError α

/-- A type mismatch showing the value's JSON text. -/
def mismatch {α : Type} (expected : String) (v : Value) : Except EvalError α :=
  .error (.typeMismatch expected v.render)

instance : OfValue Value := ⟨fun v => .ok v⟩

instance : OfValue Bool where
  ofValue v := match v with
    | .bool b => .ok b
    | .string s =>
      let t := Text.trim s
      if t = "true" then .ok true else if t = "false" then .ok false else mismatch "boolean" v
    | _ => mismatch "boolean" v

instance : OfValue UInt64 where
  ofValue v := match v with
    | .number n => match n.toNat? with
      | some k => .ok (UInt64.ofNat k)
      | none => mismatch "unsigned integer" v
    | .string s => match Decimal.readNat? (Text.trim s) with
      | some k => .ok (UInt64.ofNat k)
      | none => mismatch "unsigned integer" v
    | _ => mismatch "unsigned integer" v

instance : OfValue UInt32 where
  ofValue v := do
    let wide : UInt64 ← OfValue.ofValue v
    if wide.toNat < Nat.pow 2 32 then pure (UInt32.ofNat wide.toNat)
    else .error (.typeMismatch "32-bit unsigned integer" (toString wide.toNat))

instance : OfValue Int64 where
  ofValue v := match v with
    | .number n => match n.toInt? with
      | some k => .ok (Int64.ofInt k)
      | none => mismatch "integer" v
    | .string s => match Decimal.readInt? (Text.trim s) with
      | some k => .ok (Int64.ofInt k)
      | none => mismatch "integer" v
    | _ => mismatch "integer" v

instance : OfValue Float where
  ofValue v := match v with
    | .number n => .ok n.toFloat
    | .string s => match Decimal.readFloat? (Text.trim s) with
      | some x => .ok x
      | none => mismatch "number" v
    | _ => mismatch "number" v

instance : OfValue String where
  ofValue v := match v with
    | .string s => .ok s
    | other => .ok other.render

instance : OfValue (List Value) where
  ofValue v := match v with
    | .array items => .ok items
    | _ => mismatch "array" v

instance : OfValue Duration where
  ofValue v := match v with
    | .number n => match Duration.ofSecsFloat? n.toFloat with
      | some d => .ok d
      | none => mismatch "duration" v
    | .string s => match Duration.parse? s with
      | some d => .ok d
      | none => mismatch "duration" v
    | _ => mismatch "duration" v

/-- The spacing of doubles at one, `2^-52`. -/
def floatEpsilon : Float := Decimal.ofFraction false 1 (Nat.pow 2 52)

/-- Numbers are equal by value: within `floatEpsilon` when either is a double,
else as signed 64-bit integers when both are in that range, else as unsigned
ones; a negative integer is never equal to one above the signed range. -/
def Number.equal (a b : Number) : Bool :=
  if a.isFloat || b.isFloat then (a.toFloat - b.toFloat).abs < floatEpsilon
  else match a.toInt?, b.toInt? with
    | some x, some y => x == y
    | _, _ =>
      match a.toNat?, b.toNat? with
      | some x, some y => x == y
      | _, _ => false

/-- Equality of values for conditions and switches: numbers at the top by
value, everything else as the same JSON value. -/
def Value.equal : Value → Value → Bool
  | .number a, .number b => a.equal b
  | a, b => a.same b

end LoadScenario
