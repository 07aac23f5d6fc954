import LoadScenario.Json.Access
import LoadScenario.Json.Write
import LoadScenario.Source

/-!
# Sources described in JSON

A source is written as one of:

* a string: an expression;
* `{"callback_attr": name}`: a function reading the attribute as the type;
* `{"callback_error": message}`: a function that always fails;
* `{"callback_const": c}`: a function that always gives the constant `c`;
* `{"const": c}`, or any other value: the constant itself;
* for durations also `{"const_ms": n}`, `{"const_ns": n}`, `{"const_secs": n}`.

Constants are typed: a `Codec` says how a type's constants are written. A
duration constant is `{"ms"|"ns"|"secs": n}`, and written back as
`{"secs": s, "nanos": n}`. A source is described back as `{"const": c}`,
`{"expr": text}` or `"callback"`.
-/

namespace LoadScenario

/-- How a type's constants are read from JSON and written back, and the
keys under which a source may give a constant as a count of some unit. -/
structure Codec (α : Type) where
  read? : Value → Option α
  write : α → Value
  units : List (String × (Nat → α)) := []

namespace Codec

/-- Booleans. -/
def bool : Codec Bool := { read? := Value.flag?, write := .bool }

/-- Unsigned 64-bit integers. -/
def u64 : Codec UInt64 := { read? := fun v => v.nat?.map UInt64.ofNat, write := fun n => Value.ofNat n.toNat }

/-- The JSON form of a duration: whole seconds and the nanoseconds beyond them. -/
def durationValue (d : Duration) : Value :=
  Value.record [("secs", Value.ofNat d.secs), ("nanos", Value.ofNat d.subsecNanos)]

/-- A duration constant `{"ms"|"ns"|"secs": n}`: the first of the three units
present counts, and its count must be an unsigned integer. -/
def durationOf? (v : Value) : Option Duration :=
  match v.field? "ms", v.field? "ns", v.field? "secs" with
  | some n, _, _ => n.nat?.map Duration.ofMillis
  | _, some n, _ => n.nat?.map (⟨·⟩)
  | _, _, some n => n.nat?.map Duration.ofSecs
  | _, _, _ => none

/-- Durations, also given as `{"const_ms"|"const_ns"|"const_secs": n}`. -/
def duration : Codec Duration :=
  { read? := durationOf?, write := durationValue,
    units := [("const_ms", Duration.ofMillis), ("const_ns", (⟨·⟩)), ("const_secs", Duration.ofSecs)] }

/-- Any value. -/
def value : Codec Value := { read? := some, write := id }

/-- Lists of values. -/
def list : Codec (List Value) := { read? := fun | .array xs => some xs | _ => none, write := .array }

/-- Texts. -/
def string : Codec String := { read? := Value.text?, write := .string }

end Codec

namespace Source

variable {α : Type}

/-- A source from its description, or why it has none. -/
def ofJson [OfValue α] (c : Codec α) (v : Value) : Except String (Source α) :=
  let constant (x : Value) : Except String α :=
    match c.read? x with
    | some a => .ok a
    | none => .error ("bad constant " ++ x.render)
  match v with
  | .string s => .ok (.expr s)
  | .object _ =>
    match c.units.find? (fun (k, _) => (v.field? k).isSome) with
    | some (k, scale) =>
      match (v.field? k).bind Value.nat? with
      | some n => .ok (.const (scale n))
      | none => .error (k ++ " must be an unsigned integer")
    | none =>
      match v.field? "callback_attr", v.field? "callback_error", v.field? "callback_const",
        v.field? "const" with
      | some (.string n), _, _, _ => .ok (.callback fun s => s.getAs n)
      | some _, _, _, _ => .error "callback_attr must be a string"
      | _, some (.string m), _, _ => .ok (.callback fun _ => .error (.callback m))
      | _, some _, _, _ => .error "callback_error must be a string"
      | _, _, some x, _ => (constant x).map fun a => .callback fun _ => .ok a
      | _, _, _, some x => (constant x).map .const
      | _, _, _, _ => (constant v).map .const
  | other => (constant other).map .const

/-- The description of a source. -/
def describe (c : Codec α) : Source α → Value
  | .const a => Value.record [("const", c.write a)]
  | .expr e => Value.record [("expr", .string e)]
  | .callback _ => .string "callback"

/-- The description of an optional source, `null` for none. -/
def describeOpt (c : Codec α) : Option (Source α) → Value
  | some s => s.describe c
  | none => .null

end Source

end LoadScenario
