import LoadScenario.Json.Value

/-!
# Reading fields of JSON values

Small accessors for descriptions written in JSON: a field of an object, a
field that counts as missing when it is `null`, and the number, text or flag a
value holds.
-/

namespace LoadScenario

namespace Value

/-- The field of an object. -/
def field? (v : Value) (k : String) : Option Value :=
  match v with
  | .object fs => Fields.get? fs k
  | _ => none

/-- The field of an object, `null` counting as missing. -/
def given? (v : Value) (k : String) : Option Value :=
  match v.field? k with
  | some .null => none
  | other => other

/-- The natural number a value holds as an unsigned integer. -/
def nat? : Value → Option Nat
  | .number (.nat n) => some n.toNat
  | _ => none

/-- The text of a string value. -/
def text? : Value → Option String
  | .string s => some s
  | _ => none

/-- The flag of a boolean value. -/
def flag? : Value → Option Bool
  | .bool b => some b
  | _ => none

/-- An object of fields, sorted by key, a later field winning over an earlier one. -/
def record (ps : List (String × Value)) : Value := .object (Fields.ofList ps)

/-- The fields of an object, none for another value. -/
def fields : Value → List (String × Value)
  | .object fs => fs
  | _ => []

end Value

end LoadScenario
