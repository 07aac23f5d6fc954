import LoadScenario.Chain.Build
import LoadScenario.Effects
import LoadScenario.Feeder.Basic

/-!
# The built-in demo scenario

The scenario `run` drives, named `demo`. Each user takes an account from a
circular feeder of five, sets a discount of `20` for a gold account and `0`
otherwise, browses three pages (counted in `page`), each followed by a pause of
50 to 150 ms and paced to one every 250 ms, then checks out, trying at most
three times (counted in `attempt`). A checkout takes 20 ms and fails three
times in ten; one that succeeds sets `ordered`.
-/

namespace LoadScenario.Cli

/-- The tiers of the demo's accounts, in order. -/
def demoTiers : List String := ["gold", "silver", "bronze", "silver", "gold"]

/-- The demo's account records: `account` is `acct-i`, `tier` the `i`-th tier. -/
def demoAccounts : List Record :=
  demoTiers.zipIdx.map fun (tier, i) =>
    [("account", .string ("acct-" ++ toString i)), ("tier", .string tier)]

/-- The name of the demo's feeder, which is also the name its feed action reads. -/
def demoFeederName : String := "accounts"

/-- The demo's feeder: the accounts, round and round. -/
def demoFeeder : Except FeederError Feeder :=
  (Feeder.new demoFeederName demoAccounts).map (·.withStrategy .circular)

/-- Counts a page in `pages`, from `0` when it is missing or no count. -/
def browsePage (s : Session) : Session :=
  let pages : Nat := match s.getAs "pages" with
    | .ok (n : UInt64) => n.toNat
    | .error _ => 0
  s.set "pages" (Value.ofNat (pages + 1))

/-- A checkout: takes 20 ms, then fails three times in ten or sets `ordered`. -/
def checkout (s : Session) : Prog Session := do
  let s ← Effect.sleep (Duration.ofMillis 20) s
  if (← Prog.uniform 0 1) < 0.3 then pure s.markFailed
  else pure (s.set "ordered" (.bool true))

/-- The demo's chain. -/
def demoChain : Build Chain := do
  let pace ← Action.paceEvery (.fixed (.const (Duration.ofMillis 250))) none
  let browse : Chain :=
    [.exec (Effect.ofFun "browse" browsePage),
     .pause (.uniform (.const (Duration.ofMillis 50)) (.const (Duration.ofMillis 150))),
     pace]
  let browsing ← Action.loopBlock (.times (.const 3)) (some "page") false browse
  let buying ← Action.retryBlock (.const 3) (some "attempt") [.exec ⟨"exec", checkout⟩]
  pure
    [.feed demoFeederName demoFeederName,
     .branch (.equals (.expr "#\x7btier\x7d") (.const (.string "gold")))
       [.exec (Effect.ofFun "exec" (·.set "discount" (Value.ofNat 20)))]
       (some [.exec (Effect.ofFun "exec" (·.set "discount" (Value.ofNat 0)))]),
     browsing,
     buying]

/-- The demo scenario. -/
def demoScenario : Except ConstructionError Scenario := do
  let (chain, _) ← demoChain.run 0
  Scenario.new "demo" chain

end LoadScenario.Cli
