import LoadScenario.Describe.Source
import LoadScenario.Chain.Build
import LoadScenario.Effects

/-!
# Chains described in JSON

A chain is a JSON array of actions, read left to right; `null` is the empty
chain. An action is `{"exec": kind, …}` for an effect, or
`{"action": kind, …}` for everything else, with the fields each kind needs.
Blocks are checked when they are closed, exactly as when built by hand, and
counters are named from the same sequence: a block's body is read before the
block is closed, so generated names follow the post-order of the blocks, and
a pace gets its name where it stands.

The effects shared between users count in named shared counters; reading a
chain collects the counters and journals it uses. A description is at most
`depthLimit` levels deep.

Chains are described back as a tree with one object per action, naming its
kind and its parameters.
-/

namespace LoadScenario

namespace Describe

/-- What reading a chain keeps track of: the next generated counter name, the
numbers given to effects with a counter of their own, and the shared counters
and journals used, in order of first use. -/
structure State where
  seq : Nat := 0
  flaky : Nat := 0
  flakyEffects : Nat := 0
  counts : List String := []
  journals : List String := []

/-- What reading a chain needs to know: the record sources' names by key, and
whether a user's external stop reaches the run. -/
structure Context where
  sources : List (String × String)
  reaches : Bool

/-- Why a chain cannot be read: a malformed description, or a block its checks refuse. -/
inductive Error where
  | malformed (message : String)
  | construction (e : ConstructionError)

/-- Reading a chain. -/
abbrev Reader := StateT State (Except Error)

/-- Fails with a malformed description. -/
def malformed {α : Type} (m : String) : Reader α := throw (.malformed m)

/-- A step that may fail with a malformed description. -/
def orMalformed {α : Type} : Except String α → Reader α
  | .ok a => pure a
  | .error m => malformed m

/-- A construction step. -/
def construct {α : Type} : Except ConstructionError α → Reader α
  | .ok a => pure a
  | .error e => throw (.construction e)

/-- A construction step naming counters from the sequence. -/
def build {α : Type} (b : Build α) : Reader α := do
  let st ← get
  match b st.seq with
  | .ok (a, n) => set { st with seq := n }; pure a
  | .error e => throw (.construction e)

/-- A required source field. -/
def source {α : Type} [OfValue α] (c : Codec α) (v : Value) (k : String) : Reader (Source α) :=
  orMalformed (Source.ofJson c ((v.field? k).getD .null))

/-- An optional source field. -/
def optSource {α : Type} [OfValue α] (c : Codec α) (v : Value) (k : String) :
    Reader (Option (Source α)) :=
  match v.given? k with
  | some x => some <$> orMalformed (Source.ofJson c x)
  | none => pure none

/-- A required text field. -/
def text (v : Value) (k : String) : Reader String :=
  match (v.field? k).bind Value.text? with
  | some t => pure t
  | none => malformed ("missing string field " ++ k)

/-- An interval: an expression, `{"between": [min, max]}`, `{"fixed": d}`, or a duration source. -/
def interval (v : Value) : Reader Interval :=
  match v with
  | .string e => pure (.fixed (.expr e))
  | _ =>
    match v.field? "between", v.field? "fixed" with
    | some (.array [a, b]), _ => do
      pure (.uniform (← orMalformed (Source.ofJson Codec.duration a))
        (← orMalformed (Source.ofJson Codec.duration b)))
    | _, some d => do pure (.fixed (← orMalformed (Source.ofJson Codec.duration d)))
    | _, _ => do pure (.fixed (← orMalformed (Source.ofJson Codec.duration v)))

/-- A random weight: a number, or `NaN`, `inf` or `-inf`. -/
def weight : Value → Reader Float
  | .number n => pure n.toFloat
  | .string "NaN" => pure (0.0 / 0.0)
  | .string "inf" => pure (1.0 / 0.0)
  | .string "-inf" => pure (-1.0 / 0.0)
  | _ => malformed "bad weight"

/-- Notes a shared counter the chain uses. -/
def useCounter (k : String) : Reader String := do
  modify fun st => if st.counts.contains k then st else { st with counts := st.counts ++ [k] }
  pure k

/-- The duration of a `ms` or `ns` field, zero without one. -/
def durationField (v : Value) : Duration :=
  match (v.field? "ms").bind Value.nat?, (v.field? "ns").bind Value.nat? with
  | some ms, _ => Duration.ofMillis ms
  | _, some ns => ⟨ns⟩
  | _, _ => .zero

/-- The pairs of a `[[key, value], …]` list. -/
def entries : Value → Reader (List (String × Value))
  | .array xs => xs.mapM fun
    | .array [.string k, v] => pure (k, v)
    | _ => malformed "bad entry"
  | _ => malformed "bad entries"

/-- The texts of a list. -/
def texts : Value → Reader (List String)
  | .array xs => xs.mapM fun
    | .string k => pure k
    | _ => malformed "bad key"
  | _ => malformed "bad keys"

/-- An effect `{"exec": kind, …}`, named by `name` (default `exec`) where its kind takes a name. -/
def effect (ctx : Context) (v : Value) : Reader Effect := do
  let kind ← text v "exec"
  let name := ((v.field? "name").bind Value.text?).getD "exec"
  let pureFx (f : Session → Session) : Reader Effect := pure (Effect.ofFun name f)
  let succeedOn := (v.given? "succeed_on").bind Value.nat?
  match kind with
  | "noop" => pureFx Effect.noop
  | "set" =>
    let k ← text v "key"
    pureFx (·.set k ((v.field? "value").getD .null))
  | "set_all" =>
    let es ← entries ((v.field? "entries").getD .null)
    pureFx (·.setAll es)
  | "remove" =>
    let k ← text v "key"
    pureFx (·.remove k)
  | "remove_all" =>
    let ks ← texts ((v.field? "keys").getD .null)
    pureFx (·.removeAll ks)
  | "incr" => pureFx (Effect.incr (← text v "key"))
  | "append" =>
    let piece := match v.field? "value" with
      | some (.string t) => t
      | some x => x.render
      | none => ""
    pureFx (Effect.append (← text v "key") piece)
  | "append_expr" => pureFx (Effect.appendExpr (← text v "key") (← text v "expr"))
  | "set_expr" => pureFx (Effect.setExpr (← text v "key") (← text v "expr"))
  | "stamp" => pure ⟨name, Effect.stamp (← text v "key")⟩
  | "fail" => pureFx Session.markFailed
  | "succeed" => pureFx Session.markSucceeded
  | "reset" => pureFx Session.reset
  | "fail_if" => pureFx (Effect.failIf (← source Codec.bool v "cond"))
  | "flaky" =>
    let st ← get
    set { st with flaky := st.flaky + 1 }
    pure ⟨name, Effect.flaky ("flaky#" ++ toString st.flaky) succeedOn⟩
  | "count" => pure ⟨name, Effect.count (← useCounter (← text v "key"))⟩
  | "panic" => pure ⟨name, Effect.crash (((v.field? "message").bind Value.text?).getD "boom")⟩
  | "stop_external" =>
    let fail := ((v.field? "fail").bind Value.flag?).getD false
    let m := ((v.field? "message").bind Value.text?).getD ""
    pure ⟨name, Effect.stopExternal m fail ctx.reaches⟩
  | "sleep" => pure ⟨"exec", Effect.sleep (durationField v)⟩
  | "clock_sleep" => pure ⟨"exec", Effect.clockSleep (durationField v)⟩
  | "mark" =>
    let k ← text v "key"
    pure (Effect.ofFun "exec" (·.set k (.bool true)))
  | "counting" =>
    let k ← text v "key"
    pure ⟨k, Effect.count (← useCounter k)⟩
  | "flaky_effect" =>
    let st ← get
    set { st with flakyEffects := st.flakyEffects + 1 }
    pure ⟨"flaky", Effect.flaky (← useCounter ("flaky_effect#" ++ toString st.flakyEffects)) succeedOn⟩
  | "timestamp" =>
    let k ← text v "key"
    modify fun st => if st.journals.contains k then st else { st with journals := st.journals ++ [k] }
    pure ⟨"timestamp", Effect.timestamp k⟩
  | "sleep_effect" => pure ⟨"sleep", Effect.sleep (durationField v)⟩
  | other => malformed ("unknown exec " ++ other)

/-- The guard of a loop kind, none for a kind that is not a loop. -/
def loopGuard (kind : String) (v : Value) : Reader (Option LoopGuard) :=
  match kind with
  | "repeat" => do pure (some (.times (← source Codec.u64 v "times")))
  | "during" => do pure (some (.asLongAs none (some (← source Codec.duration v "duration"))))
  | "as_long_as" => do pure (some (.asLongAs (some (← source Codec.bool v "cond")) none))
  | "as_long_as_during" => do
    pure (some (.asLongAs (some (← source Codec.bool v "cond"))
      (some (← source Codec.duration v "duration"))))
  | "do_while" => do pure (some (.doWhile (← source Codec.bool v "cond") none))
  | "do_while_during" => do
    pure (some (.doWhile (← source Codec.bool v "cond") (some (← source Codec.duration v "duration"))))
  | "foreach" => do pure (some (.foreach (← source Codec.list v "values") (← text v "element")))
  | "forever" => pure (some .forever)
  | _ => pure none

/-- The guard of an unchecked loop: `"forever"`, `{"times": n}`,
`{"as_long_as": …}`, `{"do_while": …}` or `{"foreach": …}`. -/
def rawGuard (v : Value) : Reader LoopGuard :=
  match v with
  | .string "forever" => pure .forever
  | _ =>
    match v.field? "times", v.field? "as_long_as", v.field? "do_while", v.field? "foreach" with
    | some t, _, _, _ => do pure (.times (← orMalformed (Source.ofJson Codec.u64 t)))
    | _, some g, _, _ => do
      pure (.asLongAs (← optSource Codec.bool g "cond") (← optSource Codec.duration g "duration"))
    | _, _, some g, _ => do
      pure (.doWhile (← source Codec.bool g "cond") (← optSource Codec.duration g "duration"))
    | _, _, _, some g => do pure (.foreach (← source Codec.list g "values") (← text g "element"))
    | _, _, _, _ => malformed "bad guard"

/-- How deep a description may nest. -/
def depthLimit : Nat := 512

mutual

/-- A chain, with `fuel` levels of nesting left. -/
def chain (ctx : Context) : Nat → Value → Reader Chain
  | 0, _ => malformed "chain nested too deeply"
  | _ + 1, .null => pure []
  | fuel + 1, .array xs => actions ctx fuel xs
  | _ + 1, _ => malformed "chain must be a list"

/-- The actions of a list of descriptions, in order. -/
def actions (ctx : Context) : Nat → List Value → Reader Chain
  | _, [] => pure []
  | fuel, x :: xs => do
    let a ← action ctx fuel x
    let rest ← actions ctx fuel xs
    pure (a ++ rest)

/-- The chains of a list of descriptions, in order. -/
def chains (ctx : Context) : Nat → List Value → Reader (List Chain)
  | _, [] => pure []
  | fuel, x :: xs => do
    let c ← chain ctx fuel x
    let rest ← chains ctx fuel xs
    pure (c :: rest)

/-- One action; `append` gives the actions of another chain. -/
def action (ctx : Context) : Nat → Value → Reader (List Action)
  | 0, _ => malformed "chain nested too deeply"
  | fuel + 1, v => do
    if (v.field? "exec").isSome then return [.exec (← effect ctx v)]
    let kind ← text v "action"
    let sub (k : String) : Reader Chain := chain ctx fuel ((v.field? k).getD .null)
    let counter := (v.field? "counter").bind Value.text?
    if let some g ← loopGuard kind v then
      let body ← sub "body"
      let asap := ((v.field? "exit_asap").bind Value.flag?).getD g.exitsAsapByDefault
      return [← build (Action.loopBlock g counter asap body)]
    match kind with
    | "do_if" =>
      let c ← source Codec.bool v "cond"
      return [.branch (.predicate c) (← sub "then") none]
    | "do_if_or_else" =>
      let c ← source Codec.bool v "cond"
      let t ← sub "then"
      return [.branch (.predicate c) t (some (← sub "else"))]
    | "do_if_equals" =>
      let c := Condition.equals (← source Codec.value v "actual") (← source Codec.value v "expected")
      return [.branch c (← sub "then") none]
    | "do_if_equals_or_else" =>
      let c := Condition.equals (← source Codec.value v "actual") (← source Codec.value v "expected")
      let t ← sub "then"
      return [.branch c t (some (← sub "else"))]
    | "do_switch" | "do_switch_or_else" =>
      let key ← source Codec.value v "key"
      let cs ← match v.field? "choices" with
        | some (.array cs) => pure cs
        | _ => malformed "bad choices"
      let keys ← cs.mapM fun
        | .array [k, _] => pure k
        | _ => malformed "bad choice"
      let bodies ← chains ctx fuel (cs.map fun | .array [_, c] => c | _ => .null)
      let e ← if kind == "do_switch" then pure none else some <$> sub "else"
      return [← construct (Action.switchBlock key (keys.zip bodies) e)]
    | "random_switch" | "random_switch_or_else" =>
      let cs ← match v.field? "choices" with
        | some (.array cs) => pure cs
        | _ => malformed "bad choices"
      let ws ← cs.mapM fun
        | .array [w, _] => weight w
        | _ => malformed "bad choice"
      let bodies ← chains ctx fuel (cs.map fun | .array [_, c] => c | _ => .null)
      let e ← if kind == "random_switch" then pure none else some <$> sub "else"
      return [← construct (Action.randomBlock (ws.zip bodies) e)]
    | "uniform_random_switch" =>
      let cs ← match v.field? "choices" with
        | some (.array cs) => pure cs
        | _ => malformed "bad choices"
      return [← construct (Action.uniformBlock (← chains ctx fuel cs))]
    | "try_max" =>
      let attempts ← source Codec.u64 v "attempts"
      let body ← sub "body"
      return [← build (Action.retryBlock attempts counter body)]
    | "exit_block_on_fail" => return [.exitBlockOnFail (← sub "body")]
    | "exit_here" => return [.exit .always]
    | "exit_here_if_failed" => return [.exit .ifFailed]
    | "exit_here_if" => return [.exit (.when (← source Codec.bool v "cond"))]
    | "pace" =>
      let i ← interval ((v.field? "interval").getD .null)
      return [← build (Action.paceEvery i counter)]
    | "pause" => return [.pause (← interval ((v.field? "interval").getD .null))]
    | "pause_between" =>
      return [.pause (.uniform (← source Codec.duration v "min") (← source Codec.duration v "max"))]
    | "feed" =>
      let k ← text v "feeder"
      match Fields.get? ctx.sources k with
      | some n => return [.feed k n]
      | none => malformed ("unknown feeder " ++ k)
    | "stop_injector" => return [.stopInjector (← source Codec.string v "message")]
    | "append" => sub "chain"
    | "raw_loop" =>
      let g ← rawGuard ((v.field? "guard").getD .null)
      let c ← text v "counter"
      let asap := ((v.field? "exit_asap").bind Value.flag?).getD false
      return [.loop g c asap (← sub "body")]
    | "raw_try" =>
      let attempts ← source Codec.u64 v "attempts"
      let c ← text v "counter"
      return [.tryMax attempts c (← sub "body")]
    | other => malformed ("unknown action " ++ other)

end

/-- Reads a chain description. -/
def readChain (ctx : Context) (v : Value) : Except Error (Chain × State) :=
  (chain ctx depthLimit v).run {}

/-- The description of an interval. -/
def intervalValue : Interval → Value
  | .fixed d => Value.record [("fixed", d.describe Codec.duration)]
  | .uniform a b => Value.record [("uniform", .array [a.describe Codec.duration, b.describe Codec.duration])]

/-- The description of a loop guard. -/
def guardValue : LoopGuard → Value
  | .times n => Value.record [("times", n.describe Codec.u64)]
  | .asLongAs c d => Value.record [("as_long_as", Value.record
      [("cond", Source.describeOpt Codec.bool c), ("duration", Source.describeOpt Codec.duration d)])]
  | .doWhile c d => Value.record [("do_while", Value.record
      [("cond", c.describe Codec.bool), ("duration", Source.describeOpt Codec.duration d)])]
  | .foreach vs e => Value.record [("foreach", Value.record
      [("values", vs.describe Codec.list), ("element", .string e)])]
  | .forever => .string "forever"

/-- The description of an exit condition. -/
def exitValue : ExitCondition → Value
  | .always => .string "always"
  | .ifFailed => .string "if_failed"
  | .when p => Value.record [("if", p.describe Codec.bool)]

/-- The description of a branch condition. -/
def conditionValue : Condition → Value
  | .predicate p => Value.record [("predicate", p.describe Codec.bool)]
  | .equals x y => Value.record [("equals", .array [x.describe Codec.value, y.describe Codec.value])]

mutual

/-- The tree of an action. -/
def actionValue : Action → Value
  | a@(.exec e) => Value.record [("kind", .string a.kind), ("name", .string e.name)]
  | a@(.branch c t e) => Value.record [("kind", .string a.kind), ("condition", conditionValue c),
      ("then", chainValue t), ("else", elseValue e)]
  | a@(.switch k cs e) => Value.record [("kind", .string a.kind), ("key", k.describe Codec.value),
      ("choices", .array (keyedValues cs)), ("else", elseValue e)]
  | a@(.randomSwitch cs e) => Value.record [("kind", .string a.kind),
      ("choices", .array (weightedValues cs)), ("else", elseValue e)]
  | a@(.loop g c x b) => Value.record [("kind", .string a.kind), ("guard", guardValue g),
      ("interruptible", .bool g.isInterruptible), ("counter", .string c), ("exit_asap", .bool x),
      ("body", chainValue b)]
  | a@(.tryMax n c b) => Value.record [("kind", .string a.kind), ("attempts", n.describe Codec.u64),
      ("counter", .string c), ("body", chainValue b)]
  | a@(.exitBlockOnFail b) => Value.record [("kind", .string a.kind), ("body", chainValue b)]
  | a@(.pace i c) => Value.record [("kind", .string a.kind), ("interval", intervalValue i),
      ("counter", .string c)]
  | a@(.pause i) => Value.record [("kind", .string a.kind), ("interval", intervalValue i)]
  | a@(.feed _ n) => Value.record [("kind", .string a.kind), ("feeder", .string n)]
  | a@(.exit c) => Value.record [("kind", .string a.kind), ("condition", exitValue c)]
  | a@(.stopInjector m) => Value.record [("kind", .string a.kind), ("message", m.describe Codec.string)]

/-- The tree of a chain. -/
def chainValue : List Action → Value
  | as => .array (chainValues as)

/-- The trees of the actions of a chain. -/
def chainValues : List Action → List Value
  | [] => []
  | a :: as => actionValue a :: chainValues as

/-- The tree of an else chain, `null` for none. -/
def elseValue : Option (List Action) → Value
  | some c => .array (chainValues c)
  | none => .null

/-- The choices of a switch. -/
def keyedValues : List (Value × List Action) → List Value
  | [] => []
  | (k, c) :: rest => .array [k, .array (chainValues c)] :: keyedValues rest

/-- The choices of a random switch. -/
def weightedValues : List (Float × List Action) → List Value
  | [] => []
  | (w, c) :: rest => .array [.number (.float w), .array (chainValues c)] :: weightedValues rest

end

end Describe

end LoadScenario
