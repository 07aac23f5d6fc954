import LoadScenario.Describe.Chain
import LoadScenario.Scheduler

/-!
# Views of sessions, outcomes and runs in JSON

A session is shown as its status, attributes, counters in use (outermost
first), counters (`iteration`, `started_ns`, `finished_ns`) and pace deadlines.
An outcome adds how the user ended, its id and its scenario. A stop reason is
its kind, its message if it has one, and its text. A run's shared state shows
the records left in each feeder (`null` for a feeder that never runs out), the
shared counters, and each journal's times with the gaps between them.
-/

namespace LoadScenario

/-- An optional count or time point, `null` for none. -/
def optionalNat : Option Nat → Value
  | some n => Value.ofCount n
  | none => .null

/-- The names of a list of texts. -/
def textList (xs : List String) : Value := .array (xs.map .string)

/-- The view of a counter. -/
def LoopCounter.view (c : LoopCounter) : Value :=
  Value.record [("iteration", Value.ofNat c.iteration), ("started_ns", Value.ofCount c.startedAt),
    ("finished_ns", optionalNat c.finishedAt)]

/-- The fields of a session's view. -/
def Session.viewFields (s : Session) : List (String × Value) :=
  [("status", .string (if s.isFailed then "failed" else "active")),
   ("attributes", .object s.attributes),
   ("active_counters", textList s.active),
   ("counters", .object (s.counters.map fun (k, c) => (k, c.view))),
   ("pace_deadlines", .object (s.paceDeadlines.map fun (k, t) => (k, Value.ofCount t)))]

/-- The view of a session. -/
def Session.view (s : Session) : Value := Value.record s.viewFields

/-- The fields of an outcome's view: its session's, how it ended, the user and the scenario. -/
def Outcome.viewFields (o : Outcome) : List (String × Value) :=
  o.session.viewFields ++ [("termination", .string o.termination.name),
    ("user_id", Value.ofNat o.session.userId), ("scenario", .string o.session.scenario)]

/-- The view of a stop reason. -/
def StopReason.view (r : StopReason) : Value :=
  Value.record <| [("display", .string r.display)] ++ match r with
    | .injector m => [("kind", .string "injector"), ("message", .string m)]
    | .maxDuration => [("kind", .string "max_duration")]
    | .external m => [("kind", .string "external"), ("message", .string m)]

/-- The view of an optional stop reason, `null` for none. -/
def StopReason.viewOpt : Option StopReason → Value
  | some r => r.view
  | none => .null

namespace World

/-- The events written by `origin`, in order. -/
def eventsOf (w : World) (origin : Option Nat) : Value :=
  .array (w.events.toList.filterMap fun (o, e) => if o == origin then some e.toValue else none)

/-- The view of the shared state: records left per feeder, the given shared
counters, and the given journals if there are any. -/
def viewFields (w : World) (counts journals : List String) : List (String × Value) :=
  let feeders := w.sources.filterMap fun (k, s) => match s with
    | .feeder f => some (k, optionalNat f.remaining)
    | .sequence _ _ => none
  let tallies := counts.map fun k => (k, Value.ofNat ((Fields.get? w.tallies k).getD 0))
  let stamps := journals.map fun k =>
    let ts := (Fields.get? w.journals k).getD []
    (k, Value.record [("times", .array (ts.map Value.ofCount)),
      ("gaps", .array ((ts.zip ts.tail).map fun (a, b) => Value.ofCount (b - a)))])
  [("feeders", Value.record feeders), ("counts", Value.record tallies)] ++
    (if stamps.isEmpty then [] else [("timestamps", Value.record stamps)])

end World

end LoadScenario
