import LoadScenario.Json.Access
import LoadScenario.Feeder.Load

/-!
# Record sources described in JSON

A record source is written as an object with an optional `name` (by default
the name it is given where it is used), an optional `strategy` (`queue`, `circular`, `random` or `shuffle`)
and an optional `seed`, and its records as one of:

* `records`: a list of objects;
* `records_n`: a count `n`, for the records `{"id": 0}` to `{"id": n - 1}`;
* `json` or `csv`: the text of a feeder file;
* `file`, `content` and `format` (`json` by default, or `csv`): a feeder
  file by its path, read from a scratch directory that holds it with the
  content given, and nothing else (`Scratch`);
* `iterator`: a list of objects handed out once each, without a strategy.
-/

namespace LoadScenario

/-- Why a description gives no record source. -/
inductive SpecError where
  | malformed (message : String)
  | unknownStrategy (name : String)
  | notAStrategy
  | load (e : FeederError)

/-- The text of a description error. -/
def SpecError.message : SpecError → String
  | .malformed m => m
  | .unknownStrategy s =>
    "unknown variant `" ++ s ++ "`, expected one of `queue`, `circular`, `random`, `shuffle`"
  | .notAStrategy => "invalid type, expected a strategy"
  | .load e => e.message

/-- A strategy by its name. -/
def Strategy.ofJson : Value → Except SpecError Strategy
  | .string "queue" => .ok .queue
  | .string "circular" => .ok .circular
  | .string "random" => .ok .random
  | .string "shuffle" => .ok .shuffle
  | .string other => .error (.unknownStrategy other)
  | _ => .error .notAStrategy

/-- Records from a list of objects. -/
def recordsOf (v : Value) : Except SpecError (List Record) :=
  match v with
  | .array xs => xs.mapM fun
    | .object fs => .ok fs
    | _ => .error (.malformed "records must be objects")
  | _ => .error (.malformed "records must be a list")

/-- The feeder a description loads, before its strategy and seed. -/
def feederOfSpec (name : String) (spec : Value) : Except SpecError (Except FeederError Feeder) :=
  match spec.field? "records", (spec.field? "records_n").bind Value.nat?,
    (spec.field? "json").bind Value.text?, (spec.field? "csv").bind Value.text?,
    (spec.field? "file").bind Value.text? with
  | some v, _, _, _, _ => (recordsOf v).map (Feeder.new name)
  | _, some n, _, _, _ => .ok (Feeder.new name ((List.range n).map fun i => [("id", Value.ofNat i)]))
  | _, _, some t, _, _ => .ok (Feeder.ofJson name t)
  | _, _, _, some t, _ => .ok (Feeder.ofCsv name t)
  | _, _, _, _, some path =>
    let format : FileFormat := match spec.field? "format" with
      | some (.string "csv") => .csv
      | _ => .json
    let scratch : Scratch := match (spec.field? "content").bind Value.text? with
      | some t => { files := [(path, t)] }
      | none => {}
    .ok (Feeder.ofFile format path (scratch.read path))
  | _, _, _, _, _ => .error (.malformed "unknown feeder spec")

/-- The record source a description gives, named `fallback` unless it names itself. -/
def RecordSource.ofSpec (fallback : String) (spec : Value) : Except SpecError RecordSource := do
  let name := ((spec.field? "name").bind Value.text?).getD fallback
  let strategy ← match spec.given? "strategy" with
    | some v => some <$> Strategy.ofJson v
    | none => pure none
  let seed := (spec.given? "seed").bind Value.nat?
  if let some v := spec.field? "iterator" then
    if (spec.field? "records").isNone && (spec.field? "records_n").isNone &&
        (spec.field? "json").isNone && (spec.field? "csv").isNone && (spec.field? "file").isNone then
      return .sequence name (← recordsOf v)
  match ← feederOfSpec name spec with
  | .error e => throw (.load e)
  | .ok f =>
    let f := match strategy with
      | some s => f.withStrategy s
      | none => f
    let f := match seed with
      | some k => f.withSeed (UInt64.ofNat k)
      | none => f
    pure (.feeder f)

end LoadScenario
