import LoadScenario.Decimal.Binary

/-!
# Attribute values

Session attributes and feeder records hold JSON values. A number keeps the kind
it was written as: a natural number below `2^64`, a negative integer in the
signed 64-bit range, or a finite double, so `1` and `1.0` are different values.
An object keeps its fields sorted by key with no key twice, which is the order
in which it is written out.
-/

namespace LoadScenario

/-- A JSON number: an unsigned 64-bit integer, a negative signed 64-bit
integer, or a double. -/
inductive Number where
  | nat (n : UInt64)
  | neg (n : Int64)
  | float (x : Float)
  deriving Inhabited

/-- A JSON value; objects hold their fields sorted by key. -/
inductive Value where
  | null
  | bool (b : Bool)
  | number (n : Number)
  | string (s : String)
  | array (items : List Value)
  | object (fields : List (String × Value))
  deriving Inhabited

namespace Number

/-- The number for an integer: unsigned when non-negative. The integer is
taken modulo `2^64` in the signed range when negative. -/
def ofInt (i : Int) : Number :=
  if 0 ≤ i then .nat (UInt64.ofNat i.toNat) else .neg (Int64.ofInt i)

/-- The number for a natural number below `2^64`. -/
def ofNat (n : Nat) : Number := .nat (UInt64.ofNat n)

/-- Whether the number is held as a double. -/
def isFloat : Number → Bool
  | .float _ => true
  | _ => false

/-- The number as a double, rounding large integers to the nearest double. -/
def toFloat : Number → Float
  | .nat n => Decimal.ofNat n.toNat
  | .neg n => Decimal.ofInt n.toInt
  | .float x => x

/-- The number as an unsigned 64-bit integer, if it is held as one. -/
def toNat? : Number → Option Nat
  | .nat n => some n.toNat
  | _ => none

/-- The number as a signed 64-bit integer, if it is an integer in that range. -/
def toInt? : Number → Option Int
  | .nat n => if n.toNat < Nat.pow 2 63 then some n.toNat else none
  | .neg n => some n.toInt
  | .float _ => none

/-- The mathematical integer of an integer number. -/
def intValue? : Number → Option Int
  | .nat n => some n.toNat
  | .neg n => some n.toInt
  | .float _ => none

/-- Equality of representations: kinds must agree, doubles compare as doubles
(so `0.0` and `-0.0` are equal). -/
def same : Number → Number → Bool
  | .nat a, .nat b => a == b
  | .neg a, .neg b => a == b
  | .float a, .float b => a == b
  | _, _ => false

end Number

namespace Value

/-- The value for a natural number below `2^64`. -/
def ofNat (n : Nat) : Value := .number (.ofNat n)

/-- The value for a count of any size, such as a time point in nanoseconds:
a number below `2^64`, and from there on its decimal text. -/
def ofCount (n : Nat) : Value := if n < Nat.pow 2 64 then ofNat n else .string (toString n)

/-- The value for a double; a double that is not finite has no JSON number and becomes `null`. -/
def ofFloat (x : Float) : Value := if x.isFinite then .number (.float x) else .null

/-- Structural equality of values, numbers compared by `Number.same`. -/
def same : Value → Value → Bool
  | .null, .null => true
  | .bool a, .bool b => a == b
  | .number a, .number b => a.same b
  | .string a, .string b => a == b
  | .array xs, .array ys => sameList xs ys
  | .object xs, .object ys => sameFields xs ys
  | _, _ => false
where
  /-- Lists of the same length with equal members in order. -/
  sameList : List Value → List Value → Bool
    | [], [] => true
    | x :: xs, y :: ys => same x y && sameList xs ys
    | _, _ => false
  /-- Field lists with equal keys and values in order. -/
  sameFields : List (String × Value) → List (String × Value) → Bool
    | [], [] => true
    | (k, x) :: xs, (l, y) :: ys => k == l && same x y && sameFields xs ys
    | _, _ => false

end Value

/-! ## Fields sorted by key -/

namespace Fields

variable {α : Type}

/-- The value under `key`. -/
def get? (fs : List (String × α)) (key : String) : Option α :=
  (fs.find? (·.1 == key)).map (·.2)

/-- Whether some field has the key. -/
def contains (fs : List (String × α)) (key : String) : Bool :=
  fs.any (·.1 == key)

/-- Sets `key` to `v`, replacing an earlier value and keeping keys sorted. -/
def insert (fs : List (String × α)) (key : String) (v : α) : List (String × α) :=
  match fs with
  | [] => [(key, v)]
  | (k, x) :: rest =>
    if key < k then (key, v) :: (k, x) :: rest
    else if key = k then (key, v) :: rest
    else (k, x) :: insert rest key v

/-- Removes the field with the key, if any. -/
def erase (fs : List (String × α)) (key : String) : List (String × α) :=
  fs.filter (·.1 != key)

/-- The fields of a list of pairs, a later pair winning over an earlier one. -/
def ofList (pairs : List (String × α)) : List (String × α) :=
  pairs.foldl (fun acc (k, v) => insert acc k v) []

end Fields

end LoadScenario
