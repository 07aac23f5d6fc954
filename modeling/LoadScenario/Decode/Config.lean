import LoadScenario.Decode.Datum
import LoadScenario.Engine.Config
import LoadScenario.Json.Access

/-!
# Configurations as data

A configuration is written as a map with the optional fields `injection`,
`seed` and `max_duration_secs`; a field left out keeps its default, and a field
the configuration does not know is skipped. An injection is a map whose `type`
names the kind (`at_once` or `ramp`) beside that kind's fields (`users`, and
`over_secs` for a ramp); a sequence of the tag followed by the fields in order
is read too.

The fields are read in the order the data holds them, so the first faulty
field is the one reported. The tag is read before the other fields of an
injection, and those are read only once the tag is known; a failure in them
has no place of its own and is placed at the injection.
-/

namespace LoadScenario

namespace Injection

/-- The names of the injection kinds. -/
def kinds : List String := ["at_once", "ramp"]

/-- The name of a kind in diagnostics. -/
def kindTitle : String → String
  | "at_once" => "Injection::AtOnce"
  | _ => "Injection::Ramp"

/-- The fields of a kind, in order. -/
def fieldsOf : String → List String
  | "at_once" => ["users"]
  | _ => ["users", "over_secs"]

/-- The injection of a kind from its fields' values, in order. -/
def ofFields (kind : String) (values : List Nat) : Injection :=
  match kind, values with
  | "at_once", users :: _ => .atOnce users
  | _, users :: overSecs :: _ => .ramp users overSecs
  | _, _ => .atOnce 0

/-- Reads the named fields of a kind from map entries, in the entries' order:
each known field is read when met, unknown ones are skipped, and a field
never met is missing. -/
def readFields (names : List String) (entries : List (String × Datum)) :
    Decoded (List Nat) := do
  let step (acc : List (String × Nat)) (entry : String × Datum) : Decoded (List (String × Nat)) :=
    if names.contains entry.1 then (fun n => acc ++ [(entry.1, n)]) <$> entry.2.toU64
    else pure acc
  let found ← entries.foldlM step []
  names.mapM fun n =>
    match Fields.get? found n with
    | some v => .ok v
    | none => .fail (.missingField n)

/-- Reads the fields of a kind from a sequence of values, in order. -/
def readItems (kind : String) (items : List Datum) : Decoded (List Nat) := do
  let names := fieldsOf kind
  let count := names.length
  let plural := if count == 1 then "" else "s"
  let values ← (List.range count).mapM fun i =>
    match items[i]? with
    | some d => d.toU64
    | none => .fail (.invalidLength i
        ("struct variant " ++ kindTitle kind ++ " with " ++ toString count ++ " element" ++ plural))
  if count < items.length then
    .fail (.invalidLength items.length
      (toString count ++ " element" ++ plural ++ " in sequence"))
  else pure values

/-- What an injection is called when data of another kind stands in its place. -/
def expecting : String := "internally tagged enum Injection"

/-- Decodes an injection. -/
def decode (d : Datum) : Decoded Injection :=
  match d.bare with
  | .map entries =>
    match entries.find? (·.1 == "type") with
    | none => .fail (.missingField "type")
    | some (_, tag) => do
      let kind ← Decoded.within tag (tag.toVariant kinds)
      let values ← readFields (fieldsOf kind) (entries.filter (·.1 != "type"))
      pure (ofFields kind values)
  | .seq [] => .fail (.missingField "type")
  | .seq (tag :: rest) => do
    let kind ← Decoded.within tag (tag.toVariant kinds)
    let values ← readItems kind rest
    pure (ofFields kind values)
  | other => .fail (.invalidType other.unexpected expecting)

/-- The data form of an injection. -/
def toValue : Injection → Value
  | .atOnce users => Value.record [("type", .string "at_once"), ("users", Value.ofNat users)]
  | .ramp users overSecs => Value.record [("type", .string "ramp"), ("users", Value.ofNat users),
      ("over_secs", Value.ofNat overSecs)]

end Injection

namespace EngineConfig

/-- An optional count: absent as the unit value, else an unsigned integer. -/
def optionalU64 (d : Datum) : Decoded (Option Nat) :=
  match d.bare with
  | .unit => .ok none
  | _ => some <$> d.toU64

/-- Sets a field of a configuration from its value; unknown fields are skipped. -/
def readField (c : EngineConfig) (key : String) (d : Datum) : Decoded EngineConfig :=
  Decoded.within d <| match key with
    | "injection" => (fun i => { c with injection := i }) <$> Injection.decode d
    | "seed" => (fun s => { c with seed := s.map UInt64.ofNat }) <$> optionalU64 d
    | "max_duration_secs" => (fun m => { c with maxDurationSecs := m }) <$> optionalU64 d
    | _ => .ok c

/-- What a configuration is called when data of another kind stands in its place. -/
def expecting : String := "struct EngineConfig"

/-- Decodes a configuration: from a map, field by field over the defaults, or
from a sequence of the fields in order. -/
def decode (d : Datum) : Decoded EngineConfig :=
  match d.bare with
  | .map entries => entries.foldlM (fun c (k, v) => readField c k v) {}
  | .seq items => do
    let c ← (items.zip ["injection", "seed", "max_duration_secs"]).foldlM
      (fun c (v, k) => readField c k v) {}
    if 3 < items.length then .fail (.invalidLength items.length "fewer elements in array")
    else pure c
  | other => .fail (.invalidType other.unexpected expecting)

/-- The data form of a configuration. -/
def toValue (c : EngineConfig) : Value :=
  Value.record [("injection", c.injection.toValue),
    ("seed", match c.seed with | some s => Value.ofNat s.toNat | none => .null),
    ("max_duration_secs", match c.maxDurationSecs with | some n => Value.ofNat n | none => .null)]

end EngineConfig

end LoadScenario
