import LoadScenario.Chain.Action
import LoadScenario.Text.Blank
import LoadScenario.Decimal.Layout

/-!
# Building chains

Blocks are checked when they are closed, before any user runs:

* a switch needs a choice, and so does a random switch;
* random weights are finite and non-negative, and sum to at most 100 (with a
  tolerance of `1e-9` for rounding);
* a retry block whose attempt count is the constant `0` is refused;
* a block's counter must not count a block nested inside it, since the inner
  block would reset the outer one's count.

A block given no counter name gets one from a sequence,
`__volley.<kind>.<n>`, where `n` counts the names handed out so far. Building
runs in `Build`, which carries the sequence and fails with the first error.
-/

namespace LoadScenario

/-- Why a chain cannot be built. -/
inductive ConstructionError where
  | emptySwitch
  | emptyRandomSwitch
  | invalidWeight (w : Float)
  | weightsExceed100 (total : Float)
  | zeroAttempts
  | counterReuse (name : String)
  | emptyScenarioName

namespace ConstructionError

/-- The text of a construction error. -/
def message : ConstructionError → String
  | .emptySwitch => "switch must have at least one choice"
  | .emptyRandomSwitch => "random switch must have at least one choice"
  | .invalidWeight w => "invalid random switch weight " ++ Decimal.Layout.plain.render w
  | .weightsExceed100 t =>
    "random switch weights sum to " ++ Decimal.Layout.plain.render t ++ "%, more than 100%"
  | .zeroAttempts => "try_max needs at least one attempt"
  | .counterReuse n => "counter '" ++ n ++ "' is reused by a nested block"
  | .emptyScenarioName => "scenario name must not be empty"

/-- The name of the error's kind. -/
def kind : ConstructionError → String
  | .emptySwitch => "EmptySwitch"
  | .emptyRandomSwitch => "EmptyRandomSwitch"
  | .invalidWeight _ => "InvalidWeight"
  | .weightsExceed100 _ => "WeightsExceed100"
  | .zeroAttempts => "ZeroAttempts"
  | .counterReuse _ => "CounterReuse"
  | .emptyScenarioName => "EmptyScenarioName"

end ConstructionError

/-- Which kind of block a generated counter name is for. -/
inductive CounterKind where
  | loop
  | retry
  | pace
  deriving DecidableEq, Repr

/-- The word for a counter kind in generated names. -/
def CounterKind.word : CounterKind → String
  | .loop => "loop"
  | .retry => "try"
  | .pace => "pace"

/-- The prefix of every generated counter name. -/
def autoPrefix : String := "__volley."

/-- Building: the next number of the name sequence, and failure with the first error. -/
abbrev Build := StateT Nat (Except ConstructionError)

/-- A fresh counter name of a kind. -/
def autoName (k : CounterKind) : Build String := do
  let n ← get
  set (n + 1)
  pure (autoPrefix ++ k.word ++ "." ++ toString n)

/-- The tolerance on the sum of random weights. -/
def weightEpsilon : Float := Decimal.ofDecimal false 1 (-9)

/-- Refuses a counter that a block inside the body counts in as well. -/
def checkCounter (counter : String) (body : Chain) : Except ConstructionError Unit :=
  if Chain.usesCounter counter body then .error (.counterReuse counter) else .ok ()

/-- Checks the weights of a random switch: some choice, each weight finite and
non-negative (the first bad one is reported), and their sum at most 100. -/
def checkWeights (choices : List (Float × Chain)) : Except ConstructionError Unit :=
  if choices.isEmpty then .error .emptyRandomSwitch
  else match choices.find? (fun c => !c.1.isFinite || c.1 < 0) with
    | some (w, _) => .error (.invalidWeight w)
    | none =>
      let total := choices.foldl (fun acc c => acc + c.1) 0
      if total > 100 + weightEpsilon then .error (.weightsExceed100 total) else .ok ()

namespace Action

/-- A loop block. Without a name the counter is generated; `exitAsap` only
holds for guards that can stop holding mid-pass. -/
def loopBlock (guard : LoopGuard) (counter : Option String) (exitAsap : Bool) (body : Chain) :
    Build Action := do
  let name ← match counter with
    | some n => pure n
    | none => autoName .loop
  checkCounter name body
  pure (.loop guard name (exitAsap && guard.isInterruptible) body)

/-- A retry block, refused for the constant `0` attempts. -/
def retryBlock (attempts : Source UInt64) (counter : Option String) (body : Chain) :
    Build Action := do
  if (attempts.const?.map (·.toNat)) = some 0 then throw .zeroAttempts
  let name ← match counter with
    | some n => pure n
    | none => autoName .retry
  checkCounter name body
  pure (.tryMax attempts name body)

/-- A switch on a key, refused without choices. -/
def switchBlock (key : Source Value) (choices : List (Value × Chain)) (elseChain : Option Chain) :
    Except ConstructionError Action :=
  if choices.isEmpty then .error .emptySwitch else .ok (.switch key choices elseChain)

/-- A random switch over weighted choices, checked by `checkWeights`. -/
def randomBlock (choices : List (Float × Chain)) (elseChain : Option Chain) :
    Except ConstructionError Action := do
  checkWeights choices
  pure (.randomSwitch choices elseChain)

/-- A random switch giving each chain the same weight, `100 / n`. -/
def uniformBlock (chains : List Chain) : Except ConstructionError Action :=
  if chains.isEmpty then .error .emptyRandomSwitch
  else
    let w : Float := 100 / Decimal.ofNat chains.length
    randomBlock (chains.map fun c => (w, c)) none

/-- A pace action; without a name the counter is generated. -/
def paceEvery (interval : Interval) (counter : Option String) : Build Action := do
  let name ← match counter with
    | some n => pure n
    | none => autoName .pace
  pure (.pace interval name)

end Action

/-- The loop guards of the builder's loop kinds, with whether they leave as
soon as the guard fails by default: exactly the guards with a time limit do. -/
def LoopGuard.exitsAsapByDefault : LoopGuard → Bool
  | .asLongAs _ limit => limit.isSome
  | .doWhile _ limit => limit.isSome
  | _ => false

/-- A named chain, ready to run. -/
structure Scenario where
  name : String
  chain : Chain

/-- A scenario; its name must not be blank. -/
def Scenario.new (name : String) (chain : Chain) : Except ConstructionError Scenario :=
  if (Text.trim name).isEmpty then .error .emptyScenarioName else .ok ⟨name, chain⟩

end LoadScenario
