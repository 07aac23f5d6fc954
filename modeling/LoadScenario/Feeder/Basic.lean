import LoadScenario.Json.Value
import LoadScenario.Random.Uniform

/-!
# Feeders

A feeder hands out records, JSON objects whose fields become session
attributes. It holds at least one record and pulls them by a strategy:

* queue: records in order, each once, then the feeder is exhausted;
* circular: records in order, starting over after the last;
* random: a record drawn uniformly at each pull, never exhausted;
* shuffle: every record once, in an order drawn at the first pull, then exhausted.

A cursor counts the successful pulls (modulo `2^64`). A record source is a
feeder, or a plain sequence of records handed out once each.
-/

namespace LoadScenario

/-- A record: fields sorted by key. -/
abbrev Record := List (String × Value)

/-- Why a feeder gave no record. -/
inductive FeederError where
  | exhausted (feeder : String)
  | load (message : String)
  deriving DecidableEq, Repr

/-- The text of a feeder error. -/
def FeederError.message : FeederError → String
  | .exhausted f => "feeder '" ++ f ++ "' is exhausted"
  | .load m => "failed to load feeder records: " ++ m

/-- How a feeder picks its records. -/
inductive Strategy where
  | queue
  | circular
  | random
  | shuffle
  deriving DecidableEq, Repr, Inhabited

/-- The name of a strategy. -/
def Strategy.name : Strategy → String
  | .queue => "queue"
  | .circular => "circular"
  | .random => "random"
  | .shuffle => "shuffle"

/-- A feeder over a non-empty list of records. -/
structure Feeder where
  name : String
  records : Array Record
  strategy : Strategy := .queue
  /-- Successful pulls so far, modulo `2^64`. -/
  cursor : Nat := 0
  /-- The drawn order of a shuffle feeder, once drawn. -/
  order : Option (Array Nat) := none
  rng : Random.ChaCha := Random.ChaCha.ofSeed 0
  deriving Inhabited

namespace Feeder

/-- A queue feeder over records; a feeder needs at least one. -/
def new (name : String) (records : List Record) : Except FeederError Feeder :=
  if records.isEmpty then .error (.load ("feeder '" ++ name ++ "' has no records"))
  else .ok { name, records := records.toArray }

/-- The feeder with another strategy; a drawn shuffle order is forgotten. -/
def withStrategy (f : Feeder) (s : Strategy) : Feeder := { f with strategy := s, order := none }

/-- The feeder with a generator seeded from `seed`; a drawn shuffle order is forgotten. -/
def withSeed (f : Feeder) (seed : UInt64) : Feeder :=
  { f with rng := Random.ChaCha.ofSeed seed, order := none }

/-- The number of records. -/
def len (f : Feeder) : Nat := f.records.size

/-- Records not yet handed out, for the strategies that run out. -/
def remaining (f : Feeder) : Option Nat :=
  match f.strategy with
  | .queue | .shuffle => some (f.len - f.cursor)
  | .circular | .random => none

/-- The feeder after a successful pull. -/
def advance (f : Feeder) : Feeder := { f with cursor := (f.cursor + 1) % Nat.pow 2 64 }

/-- The next record and the feeder after the pull. -/
def next (f : Feeder) : Except FeederError (Record × Feeder) :=
  let pick (i : Nat) (f : Feeder) : Except FeederError (Record × Feeder) :=
    .ok (f.records.getD i [], f.advance)
  match f.strategy with
  | .queue => if f.cursor < f.len then pick f.cursor f else .error (.exhausted f.name)
  | .circular => pick (f.cursor % f.len) f
  | .random =>
    let (i, g) := f.rng.below f.len
    pick i { f with rng := g }
  | .shuffle =>
    if f.len ≤ f.cursor then .error (.exhausted f.name)
    else
      let (order, f) := match f.order with
        | some o => (o, f)
        | none =>
          let (o, g) := f.rng.permutation f.len
          (o, { f with rng := g, order := some o })
      pick (order.getD f.cursor 0) f

end Feeder

/-- Where a feed action takes records from. -/
inductive RecordSource where
  | feeder (f : Feeder)
  | sequence (name : String) (records : List Record)
  deriving Inhabited

namespace RecordSource

/-- The source's name. -/
def name : RecordSource → String
  | .feeder f => f.name
  | .sequence n _ => n

/-- The next record and the source after the pull. -/
def next : RecordSource → Except FeederError (Record × RecordSource)
  | .feeder f => f.next.map fun (r, f') => (r, .feeder f')
  | .sequence n [] => .error (.exhausted n)
  | .sequence n (r :: rs) => .ok (r, .sequence n rs)

/-- Records left, for a feeder whose strategy runs out. -/
def remaining : RecordSource → Option Nat
  | .feeder f => f.remaining
  | .sequence _ _ => none

end RecordSource

end LoadScenario
