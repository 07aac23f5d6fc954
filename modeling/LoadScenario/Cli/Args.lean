import LoadScenario.Cli.Grammar

/-!
# Reading a command line

The words of a command line are read left to right against the grammar of
`Cli.Grammar`. A word naming a subcommand hands the remaining words to it; a
word starting with `--` names a long option (`--name` or `--name=value`); a
word starting with `-` is a run of short letters; after `--` every word is a
plain word, and a plain word is the value of the option before it or a
misplaced word.

An option's value is checked when the next option is met or the words end, so
`--users abc --json` fails on `abc` when `--json` is read. When a word names no
option, the pending value is settled first without regard to its own errors,
and the error names the options given so far. For a mistyped long option the
most similar option of the command is suggested (`similarWords`), or else the
most similar option of the first subcommand named later in the line.

The options every command takes may be given before or after `run`; the later
one counts.
-/

namespace LoadScenario.Cli

/-- Why reading stops early: a misuse of a command, or a text to show (help or version). -/
inductive Halt where
  | misuse (c : Command) (e : UsageError)
  | show (text : String)
  deriving DecidableEq, Repr

/-- Where reading a command's words stands. -/
structure Reading where
  /-- The options given, first mention first, with their value when it was read. -/
  given : List (String × Option ArgValue) := []
  /-- An option whose value is being collected, with the words collected so far. -/
  pending : Option (OptionSpec × List String) := none
  /-- Whether the next plain word is the pending option's value. -/
  awaiting : Bool := false
  /-- Whether `--` was met. -/
  trailing : Bool := false
  deriving Repr

namespace Reading

/-- The long names of the options given. -/
def present (st : Reading) : List String := st.given.map (·.1)

/-- The value given for an option. -/
def valueOf (st : Reading) (long : String) : Option ArgValue :=
  (st.given.find? (·.1 == long)).bind (·.2)

/-- The count given for an option. -/
def countOf (st : Reading) (long : String) : Option Nat :=
  match st.valueOf long with
  | some (.count n) => some n
  | _ => none

/-- The text given for an option. -/
def textOf (st : Reading) (long : String) : Option String :=
  match st.valueOf long with
  | some (.text s) => some s
  | _ => none

/-- Whether a flag was given. -/
def isSet (st : Reading) (long : String) : Bool := st.present.contains long

end Reading

/-- An outcome of a step of reading as a result: the reading, unless there was
a problem. -/
def orHalt : Reading × Option Halt → Except Halt Reading
  | (st, none) => .ok st
  | (_, some h) => .error h

/-- Takes an option of command `c` with the values given for it: shows help or
the version, or records the option with its value read. The option may not be
given twice, and an option taking a value needs one. -/
def accept (c : Command) (st : Reading) (o : OptionSpec) (values : List String) :
    Reading × Option Halt :=
  match o.role, values with
  | .value .., [] => (st, some (.misuse c (.valueRequired o.display)))
  | .help, _ => (st, some (.show c.helpText))
  | .version, _ => (st, some (.show versionText))
  | role, _ =>
    if st.present.contains o.long then
      ({ st with given := st.given.filter (·.1 != o.long) },
        some (.misuse c (.givenTwice o.display (c.usage []))))
    else
      let (value, problem) : Option ArgValue × Option Halt := match role, values with
        | .value _ kind, v :: _ =>
          match kind.read o v with
          | .ok a => (some a, none)
          | .error e => (none, some (.misuse c e))
        | _, _ => (none, none)
      ({ st with given := st.given ++ [(o.long, value)] }, problem)

/-- Settles the pending option with the values collected for it. -/
def settle (c : Command) (st : Reading) : Reading × Option Halt :=
  match st.pending with
  | none => (st, none)
  | some (o, values) => accept c { st with pending := none } o values

/-- Takes an option met in the words: settles the pending option, then takes this one. -/
def react (c : Command) (st : Reading) (o : OptionSpec) (values : List String) :
    Except Halt Reading := do
  let st ← orHalt (settle c st)
  orHalt (accept c st o values)

/-- The error for a long option `--name` that command `c` does not have, with
`later` the words after it. -/
def unknownLong (c : Command) (st : Reading) (name : String) (later : List String) : UsageError :=
  let word := "--" ++ name
  match (similarWords name c.longs).getLast? with
  | some near =>
    let shown := if st.present.contains near then st.present else st.present ++ [near]
    .unexpectedArgument word (some ("a similar argument exists: '--" ++ near ++ "'")) (c.usage shown)
  | none =>
    let hints := c.subcommands.filterMap fun (sub, sc) =>
      match (similarWords name sc.longs).getLast?, later.idxOf? sub with
      | some near, some pos => some (pos, "'" ++ sub ++ " --" ++ near ++ "' exists")
      | _, _ => none
    let best := hints.foldl (fun acc h => match acc with
      | some a => if h.1 < a.1 then some h else some a
      | none => some h) none
    .unexpectedArgument word (best.map (·.2)) (c.usage st.present)

/-- Reads the word `--body` for command `c`, with `later` the words after it. -/
def readLong (c : Command) (st : Reading) (body : String) (later : List String) :
    Except Halt Reading :=
  let (name, attached) := match body.splitOn "=" with
    | n :: v :: more => (n, some ("=".intercalate (v :: more)))
    | _ => (body, none)
  match c.optionNamed name with
  | some o =>
    if o.takesValue then
      match attached with
      | some v => do
        let st ← react c st o [v]
        pure { st with awaiting := false }
      | none => do
        let st ← orHalt (settle c st)
        pure { st with pending := some (o, []), awaiting := true }
    else
      match attached with
      | some v =>
        .error (.misuse c (.unexpectedValue v o.display (c.usage (st.present ++ [o.long]))))
      | none => do
        let st ← react c st o []
        pure { st with awaiting := false }
  | none => .error (.misuse c (unknownLong c (settle c st).1 name later))

/-- Reads a run of short letters for command `c`. -/
def readShort (c : Command) (st : Reading) : List Char → Except Halt Reading
  | [] => .ok { st with awaiting := false }
  | letter :: more =>
    match c.optionLettered letter with
    | some o => do
      let st ← react c st o []
      readShort c st more
    | none =>
      .error (.misuse c (.unexpectedArgument ("-" ++ letter.toString) none (c.usage [])))

/-- The error for a plain word that nothing takes. -/
def stray (c : Command) (st : Reading) (word : String) : UsageError :=
  if c.subcommands.isEmpty then .unexpectedArgument word none (c.usage [])
  else if st.trailing && (c.find word).isSome then
    .unexpectedArgument word
      (some ("subcommand '" ++ word ++ "' exists; to use it, remove the '--' before it"))
      (c.usage [])
  else .unrecognizedSubcommand word (similarWords word (c.subcommands.map (·.1))) (c.usage [])

/-- Where reading a command's words ended: at their end, or at a subcommand
with the words left for it. -/
inductive Reached where
  | done (st : Reading)
  | entered (st : Reading) (sub : Command) (rest : List String)

/-- Reads the words of command `c`. -/
def readWords (c : Command) (st : Reading) : List String → Except Halt Reached
  | [] => .ok (.done st)
  | w :: rest =>
    match (if st.trailing then none else c.find w) with
    | some sub => .ok (.entered st sub rest)
    | none =>
      if !st.trailing && w == "--" then readWords c { st with trailing := true } rest
      else if !st.trailing && w.startsWith "--" then do
        let st ← readLong c st (w.drop 2).toString rest
        readWords c st rest
      else if !st.trailing && w.startsWith "-" && w.length > 1 then do
        let st ← readShort c st (w.toList.drop 1)
        readWords c st rest
      else
        match st.awaiting, st.pending with
        | true, some (o, values) =>
          readWords c { st with pending := some (o, values ++ [w]), awaiting := false } rest
        | _, _ => .error (.misuse c (stray c (settle c st).1 w))

/-- Shows the help of the command reached from `c` by the subcommand names
`names`, or fails at the first name that is not one. -/
def helpFor (c : Command) : List String → Halt
  | [] => .show c.helpText
  | name :: more =>
    match c.find name with
    | some sub => helpFor sub more
    | none => .misuse c (.unrecognizedSubcommand name [] (c.usage []))

/-- How logs are to be written. -/
structure LogSettings where
  /-- The log filter, overriding the environment's. -/
  level : Option String := none
  /-- Whether log lines are JSON. -/
  json : Bool := false
  deriving DecidableEq, Repr

/-- What `run` was asked for. -/
structure RunRequest where
  config : Option String := none
  users : Option Nat := none
  rampSecs : Option Nat := none
  seed : Option Nat := none
  maxDurationSecs : Option Nat := none
  json : Bool := false
  deriving DecidableEq, Repr

/-- What a command line asks for. -/
inductive Invocation where
  /-- No subcommand. -/
  | idle (logs : LogSettings)
  /-- A run of the demo scenario. -/
  | run (logs : LogSettings) (request : RunRequest)
  deriving DecidableEq, Repr

/-- The log settings given at the top and in a subcommand; the subcommand's count. -/
def logSettings (top : Reading) (sub : Option Reading) : LogSettings :=
  { level := (sub.bind (·.textOf "log-level")).or (top.textOf "log-level"),
    json := top.isSet "log-json" || sub.any (·.isSet "log-json") }

/-- What `run`'s options ask for. -/
def RunRequest.ofReading (st : Reading) : RunRequest :=
  { config := st.textOf "config", users := st.countOf "users",
    rampSecs := st.countOf "ramp-secs", seed := st.countOf "seed",
    maxDurationSecs := st.countOf "max-duration-secs", json := st.isSet "json" }

/-- Reads a command line (the words after the program's name). -/
def readCommandLine (words : List String) : Except Halt Invocation := do
  match ← readWords .top {} words with
  | .done st =>
    let st ← orHalt (settle .top st)
    pure (.idle (logSettings st none))
  | .entered top sub rest =>
    match sub with
    | .run =>
      let inner ← match ← readWords .run {} rest with
        | .done st => orHalt (settle .run st)
        | .entered st _ _ => orHalt (settle .run st)
      let top ← orHalt (settle .top top)
      pure (.run (logSettings top (some inner)) (RunRequest.ofReading inner))
    | _ => .error (helpFor .top rest)

end LoadScenario.Cli
