import LoadScenario.Json.Read

/-!
# Self-describing data and typed decoding

A configuration arrives as self-describing data: JSON or TOML, read into a
`Datum`, which keeps what a decoder can see of a value (its kind and contents)
and, for text read from a file, where in the text each value stands.

Decoding a `Datum` into a typed value fails with a `DecodeError`, whose text
names what was found and what was expected (``invalid type: string "x",
expected u64``). A failure carries the place of the innermost value that has
one: a decoder that reads a part of a value places the failure at that part when
the part knows its place, and leaves it to the enclosing value otherwise.
-/

namespace LoadScenario

/-- A stretch of a text: the byte offsets of its first byte and just past its last. -/
structure Span where
  start : Nat
  stop : Nat
  deriving DecidableEq, Repr, Inhabited

/-- A value as a decoder sees it. Integers keep whether they were read as
unsigned or signed; `located` records where a value stands in its text. -/
inductive Datum where
  | unit
  | bool (b : Bool)
  | unsigned (n : Nat)
  | signed (i : Int)
  | float (x : Float)
  | str (s : String)
  | seq (items : List Datum)
  | map (entries : List (String × Datum))
  | located (span : Span) (d : Datum)
  deriving Inhabited

/-- The kind and contents of a value a decoder did not expect, as its diagnostics name it. -/
inductive Found where
  | unit
  | bool (b : Bool)
  | integer (i : Int)
  | float (x : Float)
  | str (s : String)
  | seq
  | map
  deriving Repr

/-- The text a configuration was written in. The two name a missing value and
a double differently in diagnostics. -/
inductive Dialect where
  | json
  | toml
  deriving DecidableEq, Repr

/-- How a diagnostic in a dialect names what was found: JSON names the unit
value `null` and writes a double as its JSON text; TOML writes a double in full
positional form, with `.0` for a whole number. -/
def Found.name (dialect : Dialect) : Found → String
  | .unit => if dialect = .json then "null" else "unit value"
  | .bool b => "boolean `" ++ toString b ++ "`"
  | .integer i => "integer `" ++ toString i ++ "`"
  | .float x =>
    "floating point `" ++
      (if dialect = .json then Decimal.Layout.data.render x else Decimal.Layout.named.render x) ++ "`"
  | .str s => "string " ++ Text.debugQuote s
  | .seq => "sequence"
  | .map => "map"

namespace Datum

/-- The value without the places around it. -/
def bare : Datum → Datum
  | .located _ d => d.bare
  | d => d

/-- The place of the value, if it has one. -/
def span? : Datum → Option Span
  | .located s _ => some s
  | _ => none

/-- The datum of a JSON value: `null` is the unit value. -/
def ofValue : Value → Datum
  | .null => .unit
  | .bool b => .bool b
  | .number (.nat n) => .unsigned n.toNat
  | .number (.neg n) => .signed n.toInt
  | .number (.float x) => .float x
  | .string s => .str s
  | .array items => .seq (ofItems items)
  | .object fields => .map (ofFields fields)
where
  /-- The data of array members. -/
  ofItems : List Value → List Datum
    | [] => []
    | v :: vs => ofValue v :: ofItems vs
  /-- The data of object fields. -/
  ofFields : List (String × Value) → List (String × Datum)
    | [] => []
    | (k, v) :: fs => (k, ofValue v) :: ofFields fs

/-- What a diagnostic says was found, for a value of the wrong kind. -/
def unexpected : Datum → Found
  | .unit => .unit
  | .bool b => .bool b
  | .unsigned n => .integer n
  | .signed i => .integer i
  | .float x => .float x
  | .str s => .str s
  | .seq _ => .seq
  | .map _ => .map
  | .located _ d => d.unexpected

end Datum

/-- Why a value does not decode. -/
inductive DecodeError where
  | invalidType (found : Found) (expected : String)
  | invalidValue (found : Found) (expected : String)
  | invalidLength (length : Nat) (expected : String)
  | unknownVariant (name : String) (variants : List String)
  | missingField (name : String)
  deriving Repr

/-- The names of the variants a tag may take: "`a`", "`a` or `b`", or
"one of `a`, `b`, `c`". -/
def oneOf (names : List String) : String :=
  let quoted := names.map fun n => "`" ++ n ++ "`"
  match quoted with
  | [] => "no variants"
  | [a] => a
  | [a, b] => a ++ " or " ++ b
  | _ => "one of " ++ ", ".intercalate quoted

/-- The text of a decoding error in a dialect. -/
def DecodeError.message (dialect : Dialect) : DecodeError → String
  | .invalidType found expected => "invalid type: " ++ found.name dialect ++ ", expected " ++ expected
  | .invalidValue found expected => "invalid value: " ++ found.name dialect ++ ", expected " ++ expected
  | .invalidLength n expected => "invalid length " ++ toString n ++ ", expected " ++ expected
  | .unknownVariant name [] => "unknown variant `" ++ name ++ "`, there are no variants"
  | .unknownVariant name vs => "unknown variant `" ++ name ++ "`, expected " ++ oneOf vs
  | .missingField name => "missing field `" ++ name ++ "`"

/-- A decoding failure and the place of the value it concerns, when known. -/
structure DecodeFailure where
  error : DecodeError
  span : Option Span := none
  deriving Repr

/-- The result of decoding. -/
abbrev Decoded (α : Type) := Except DecodeFailure α

namespace Decoded

variable {α : Type}

/-- A failure with no place yet. -/
def fail (e : DecodeError) : Decoded α := .error { error := e }

/-- Places an unplaced failure at the place of `d`. -/
def within (d : Datum) (r : Decoded α) : Decoded α :=
  r.mapError fun f => if f.span.isSome then f else { f with span := d.span? }

end Decoded

namespace Datum

/-- An unsigned 64-bit integer: a non-negative integer. -/
def toU64 (d : Datum) : Decoded Nat :=
  match d.bare with
  | .unsigned n => .ok n
  | .signed i =>
    if 0 ≤ i then .ok i.toNat else .fail (.invalidValue (Datum.signed i).unexpected "u64")
  | other => .fail (.invalidType other.unexpected "u64")

/-- The variant a tag names, among `variants`. -/
def toVariant (variants : List String) (d : Datum) : Decoded String :=
  match d.bare with
  | .str s => if variants.contains s then .ok s else .fail (.unknownVariant s variants)
  | other => .fail (.invalidType other.unexpected "variant identifier")

end Datum

end LoadScenario
