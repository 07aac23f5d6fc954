import LoadScenario.Json.Value

/-!
# Sessions

A session is what one virtual user carries through its scenario: attributes
(name to JSON value), a status, loop counters with the stack of those in use,
and pace deadlines. Sessions are values: every operation returns a new one.

Entering a counter starts it at iteration zero and mirrors the iteration in an
attribute of the same name; a counter already on the stack cannot be entered
again. Leaving a counter takes its innermost entry off the stack and records
when it finished. Resetting keeps only the attributes of counters in use.
Time is a count of nanoseconds since the run started.
-/

namespace LoadScenario

/-- Whether a session has failed. -/
inductive Status where
  | active
  | failed
  deriving DecidableEq, Repr, Inhabited

/-- The state of a loop or retry counter. -/
structure LoopCounter where
  iteration : Nat
  startedAt : Nat
  finishedAt : Option Nat
  deriving DecidableEq, Repr, Inhabited

namespace LoopCounter

/-- Whether the counter's block was left. -/
def isFinished (c : LoopCounter) : Bool := c.finishedAt.isSome

/-- Time from start to finish, or to `now` while the block runs; never negative. -/
def elapsed (c : LoopCounter) (now : Nat) : Nat := c.finishedAt.getD now - c.startedAt

end LoopCounter

/-- Misuse of counters. -/
inductive SessionError where
  | counterInUse (name : String)
  | unknownCounter (name : String)
  deriving DecidableEq, Repr

/-- The text of a session error. -/
def SessionError.message : SessionError → String
  | .counterInUse name => "counter '" ++ name ++ "' is already in use by an enclosing block"
  | .unknownCounter name => "unknown counter '" ++ name ++ "'"

/-- The state of one virtual user. -/
structure Session where
  scenario : String
  userId : Nat
  attributes : List (String × Value) := []
  status : Status := .active
  counters : List (String × LoopCounter) := []
  /-- Counters in use, outermost first. -/
  active : List String := []
  paceDeadlines : List (String × Nat) := []
  deriving Inhabited

namespace Session

/-- A fresh session of a scenario's user. -/
def new (scenario : String) (userId : Nat) : Session := { scenario, userId }

/-- Whether the session has failed. -/
def isFailed (s : Session) : Bool := s.status == .failed

/-- The session with the given status. -/
def withStatus (s : Session) (st : Status) : Session := { s with status := st }

/-- The session marked as failed. -/
def markFailed (s : Session) : Session := s.withStatus .failed

/-- The session marked as active again. -/
def markSucceeded (s : Session) : Session := s.withStatus .active

/-- The attribute's value. -/
def get? (s : Session) (key : String) : Option Value := Fields.get? s.attributes key

/-- Whether the attribute is set. -/
def contains (s : Session) (key : String) : Bool := Fields.contains s.attributes key

/-- Sets an attribute. -/
def set (s : Session) (key : String) (v : Value) : Session :=
  { s with attributes := Fields.insert s.attributes key v }

/-- Sets attributes in order, so a later pair wins. -/
def setAll (s : Session) (entries : List (String × Value)) : Session :=
  entries.foldl (fun acc (k, v) => acc.set k v) s

/-- Removes an attribute. -/
def remove (s : Session) (key : String) : Session :=
  { s with attributes := Fields.erase s.attributes key }

/-- Removes attributes. -/
def removeAll (s : Session) (keys : List String) : Session :=
  keys.foldl remove s

/-- Keeps only the attributes of the counters in use. -/
def reset (s : Session) : Session :=
  { s with attributes := s.attributes.filter fun (k, _) => s.active.contains k }

/-- The number of attributes. -/
def attributeCount (s : Session) : Nat := s.attributes.length

/-- The counter of that name. -/
def counter? (s : Session) (name : String) : Option LoopCounter := Fields.get? s.counters name

/-- Whether the counter is on the stack of counters in use. -/
def isCounterActive (s : Session) (name : String) : Bool := s.active.contains name

/-- Starts a counter at iteration zero and puts it on the stack; its attribute becomes `0`. -/
def enterCounter (s : Session) (name : String) (now : Nat) : Except SessionError Session :=
  if s.isCounterActive name then .error (.counterInUse name)
  else .ok { s with
    counters := Fields.insert s.counters name ⟨0, now, none⟩
    active := s.active ++ [name]
    attributes := Fields.insert s.attributes name (Value.ofNat 0) }

/-- Counts one more iteration of an unfinished counter, and mirrors it in the attribute. -/
def incrementCounter (s : Session) (name : String) : Except SessionError Session :=
  match s.counter? name with
  | some c =>
    if c.isFinished then .error (.unknownCounter name)
    else
      let n := c.iteration + 1
      .ok { s with
        counters := Fields.insert s.counters name { c with iteration := n }
        attributes := Fields.insert s.attributes name (Value.ofNat n) }
  | none => .error (.unknownCounter name)

/-- Removes the last occurrence of `name` from a list. -/
def eraseLast (xs : List String) (name : String) : List String :=
  (xs.reverse.erase name).reverse

/-- Takes the counter off the stack and records when it finished. -/
def exitCounter (s : Session) (name : String) (now : Nat) : Except SessionError Session :=
  if s.isCounterActive name then
    let counters := match s.counter? name with
      | some c => Fields.insert s.counters name { c with finishedAt := some now }
      | none => s.counters
    .ok { s with active := eraseLast s.active name, counters }
  else .error (.unknownCounter name)

/-- The pace deadline of that name. -/
def paceDeadline? (s : Session) (name : String) : Option Nat := Fields.get? s.paceDeadlines name

/-- Sets a pace deadline. -/
def withPaceDeadline (s : Session) (name : String) (deadline : Nat) : Session :=
  { s with paceDeadlines := Fields.insert s.paceDeadlines name deadline }

end Session

end LoadScenario
