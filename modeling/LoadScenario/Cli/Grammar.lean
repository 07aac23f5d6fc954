import LoadScenario.Cli.Similarity

/-!
# The command line's grammar

The `volley` command takes the options `--log-level <log-level>` and
`--log-json`, which `run` takes as well, help and version flags, and the
subcommands `run` and `help`; `help` takes only the names of subcommands. `run` takes its own options: a
configuration file, four counts and `--json`.

Every option is given at most once. An option with a value takes exactly one,
attached (`--users=5`) or as the next word; a count is an unsigned 64-bit
integer in decimal with an optional `+`, a path is any text but the empty one.
Short letters name only flags, and several may share one word (`-hV`).

A misuse of the command line is reported as a `UsageError`, shown as
`error: …`, then any tips, the usage line of the command at fault, and a
pointer to `--help` when that command takes it.
-/

namespace LoadScenario.Cli

/-- What the value of an option must be. -/
inductive ValueKind where
  /-- An unsigned 64-bit count. -/
  | count
  /-- Any text. -/
  | text
  /-- A file path: any text but the empty one. -/
  | path
  deriving DecidableEq, Repr

/-- What giving an option does. -/
inductive Role where
  /-- Takes one value, shown in messages as `<placeholder>`. -/
  | value (placeholder : String) (kind : ValueKind)
  /-- Is set by being given. -/
  | flag
  /-- Shows the command's help. -/
  | help
  /-- Shows the program's version. -/
  | version
  deriving DecidableEq, Repr

/-- An option of a command: its long name, its short letter if any, and its role. -/
structure OptionSpec where
  long : String
  short : Option Char := none
  role : Role
  deriving DecidableEq, Repr

namespace OptionSpec

/-- Whether the option takes a value. -/
def takesValue (o : OptionSpec) : Bool :=
  match o.role with
  | .value .. => true
  | _ => false

/-- The option as messages show it: `--users <users>`, or `--json`. -/
def display (o : OptionSpec) : String :=
  "--" ++ o.long ++ match o.role with
    | .value p _ => " <" ++ p ++ ">"
    | _ => ""

end OptionSpec

/-- The commands: the program itself and its subcommands. -/
inductive Command where
  | top
  | run
  | help
  deriving DecidableEq, Repr

/-- The program's version line. -/
def versionText : String := "volley 0.1.0\n"

/-- The options every command takes. -/
def globalOptions : List OptionSpec :=
  [{ long := "log-level", role := .value "log-level" .text },
   { long := "log-json", role := .flag }]

/-- The help flag. -/
def helpOption : OptionSpec := { long := "help", short := some 'h', role := .help }

namespace Command

/-- The command's options, in the order in which suggestions are looked for. -/
def options : Command → List OptionSpec
  | .top => globalOptions ++ [helpOption, { long := "version", short := some 'V', role := .version }]
  | .run =>
    [{ long := "config", role := .value "config" .path },
     { long := "users", role := .value "users" .count },
     { long := "ramp-secs", role := .value "ramp-secs" .count },
     { long := "seed", role := .value "seed" .count },
     { long := "max-duration-secs", role := .value "max-duration-secs" .count },
     { long := "json", role := .flag }] ++ globalOptions ++ [helpOption]
  | .help => []

/-- Whether the command takes `--help`: all but `help` itself. -/
def hasHelpFlag : Command → Bool
  | .help => false
  | _ => true

/-- The command's subcommands, by name. -/
def subcommands : Command → List (String × Command)
  | .top => [("run", .run), ("help", .help)]
  | _ => []

/-- The subcommand of a name. -/
def find (c : Command) (name : String) : Option Command :=
  (c.subcommands.find? (·.1 == name)).map (·.2)

/-- The long names of the command's options. -/
def longs (c : Command) : List String := c.options.map (·.long)

/-- The option of a long name. -/
def optionNamed (c : Command) (long : String) : Option OptionSpec :=
  c.options.find? (·.long == long)

/-- The option of a short letter. -/
def optionLettered (c : Command) (letter : Char) : Option OptionSpec :=
  c.options.find? (·.short == some letter)

/-- The command as typed from the program's name. -/
def path : Command → String
  | .top => "volley"
  | .run => "volley run"
  | .help => "volley help"

/-- The command's usage line when nothing is known of what was given. -/
def plainUsage : Command → String
  | .top => "Usage: volley [OPTIONS] [COMMAND]"
  | .run => "Usage: volley run [OPTIONS]"
  | .help => "Usage: volley help [COMMAND]..."

/-- The command's usage line naming the options given (by long name, first
mention first), or the plain line when none was. -/
def usage (c : Command) (given : List String) : String :=
  let shown := given.filterMap fun g => (c.optionNamed g).map (·.display)
  if shown.isEmpty then c.plainUsage
  else "Usage: " ++ c.path ++ String.join (shown.map (" " ++ ·))

/-- The command's help. -/
def helpText : Command → String
  | .top =>
    "Virtual-user scenario engine\n\n" ++
    "Usage: volley [OPTIONS] [COMMAND]\n\n" ++
    "Commands:\n" ++
    "  run   Run the built-in demo scenario\n" ++
    "  help  Print this message or the help of the given subcommand(s)\n\n" ++
    "Options:\n" ++
    "      --log-level <log-level>  Log filter (overrides RUST_LOG), e.g. info or volley_engine=debug\n" ++
    "      --log-json               Emit logs as JSON lines\n" ++
    "  -h, --help                   Print help\n" ++
    "  -V, --version                Print version\n"
  | .run =>
    "Run the built-in demo scenario\n\n" ++
    "Usage: volley run [OPTIONS]\n\n" ++
    "Options:\n" ++
    "      --config <config>\n          TOML engine configuration\n" ++
    "      --log-level <log-level>\n" ++
    "          Log filter (overrides RUST_LOG), e.g. info or volley_engine=debug\n" ++
    "      --log-json\n          Emit logs as JSON lines\n" ++
    "      --users <users>\n          Number of virtual users\n" ++
    "      --ramp-secs <ramp-secs>\n          Spread user starts over this many seconds\n" ++
    "      --seed <seed>\n          Random seed for reproducibility\n" ++
    "      --max-duration-secs <max-duration-secs>\n" ++
    "          Stop the run after this many seconds\n" ++
    "      --json\n          Print the summary as JSON\n" ++
    "  -h, --help\n          Print help\n"
  | .help =>
    "Print this message or the help of the given subcommand(s)\n\n" ++
    "Usage: volley help [COMMAND]...\n\n" ++
    "Arguments:\n" ++
    "  [COMMAND]...  Print help for the subcommand(s)\n"

end Command

/-- A misuse of the command line. -/
inductive UsageError where
  /-- A word that names no option, with a tip and the usage line. -/
  | unexpectedArgument (word : String) (tip : Option String) (usage : String)
  /-- A word in the place of a subcommand that names none, with similar names. -/
  | unrecognizedSubcommand (word : String) (similar : List String) (usage : String)
  /-- A value that is not what its option takes. -/
  | invalidValue (value option reason : String)
  /-- An option given without its value. -/
  | valueRequired (option : String)
  /-- An option given twice. -/
  | givenTwice (option : String) (usage : String)
  /-- A value attached to a flag. -/
  | unexpectedValue (value option : String) (usage : String)
  deriving DecidableEq, Repr

namespace UsageError

/-- The error's first line, after `error: `. -/
def headline : UsageError → String
  | .unexpectedArgument w _ _ => "unexpected argument '" ++ w ++ "' found"
  | .unrecognizedSubcommand w _ _ => "unrecognized subcommand '" ++ w ++ "'"
  | .invalidValue v o r => "invalid value '" ++ v ++ "' for '" ++ o ++ "': " ++ r
  | .valueRequired o => "a value is required for '" ++ o ++ "' but none was supplied"
  | .givenTwice o _ => "the argument '" ++ o ++ "' cannot be used multiple times"
  | .unexpectedValue v o _ => "unexpected value '" ++ v ++ "' for '" ++ o ++ "' found; no more were expected"

/-- The error's tips. -/
def tips : UsageError → List String
  | .unexpectedArgument _ (some t) _ => [t]
  | .unrecognizedSubcommand _ [s] _ => ["a similar subcommand exists: '" ++ s ++ "'"]
  | .unrecognizedSubcommand _ (s :: more) _ =>
    ["some similar subcommands exist: " ++ ", ".intercalate ((s :: more).map fun n => "'" ++ n ++ "'")]
  | _ => []

/-- The usage line the error shows, if any. -/
def usageLine : UsageError → Option String
  | .unexpectedArgument _ _ u | .unrecognizedSubcommand _ _ u | .givenTwice _ u
  | .unexpectedValue _ _ u => some u
  | _ => none

/-- The error as printed, ending with a pointer to `--help` when the command
takes it. -/
def render (e : UsageError) (hint : Bool) : String :=
  "error: " ++ e.headline ++
  (if e.tips.isEmpty then "" else "\n" ++ String.join (e.tips.map ("\n  tip: " ++ ·))) ++
  (match e.usageLine with
    | some u => "\n\n" ++ u
    | none => "") ++
  (if hint then "\n\nFor more information, try '--help'.\n" else "\n")

end UsageError

/-- Reads an unsigned 64-bit integer in decimal, with an optional leading `+`,
or says why it is none. -/
def readCount (word : String) : Except String Nat :=
  if word.isEmpty then .error "cannot parse integer from empty string"
  else
    let digits := if word.startsWith "+" && word.length > 1 then (word.drop 1).toString else word
    if !digits.all Char.isDigit then .error "invalid digit found in string"
    else
      let n := digits.foldl (fun acc c => 10 * acc + (c.toNat - '0'.toNat)) 0
      if n < Nat.pow 2 64 then .ok n else .error "number too large to fit in target type"

/-- A value read for an option. -/
inductive ArgValue where
  | count (n : Nat)
  | text (s : String)
  deriving DecidableEq, Repr

/-- Reads the value of an option of the given kind. -/
def ValueKind.read (k : ValueKind) (o : OptionSpec) (word : String) : Except UsageError ArgValue :=
  match k with
  | .count =>
    match readCount word with
    | .ok n => .ok (.count n)
    | .error reason => .error (.invalidValue word o.display reason)
  | .text => .ok (.text word)
  | .path => if word.isEmpty then .error (.valueRequired o.display) else .ok (.text word)

end LoadScenario.Cli
