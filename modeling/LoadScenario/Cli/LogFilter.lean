import LoadScenario.Text.Pattern

/-!
# Log filter directives

A log filter is a comma-separated list of directives; empty pieces are
skipped, and a directive that cannot be read is skipped with a warning on the
error stream, ``ignoring `d`: reason``.

A directive is read character by character, after trimming the blanks around
it, through these stages:

* at the start, `[` opens a span; a letter, digit, `-`, `:` or `_` starts a
  level or target; anything else is an error;
* in a level or target, `=` starts a level and `[` opens a span;
* in a span, `]` ends it, leaving a target, and `{` opens its fields;
* in the fields, `}` or `,` ends a field, which may not be empty, and after
  the `}` only `]` may follow;
* after a target only `=` may follow, starting a level.

A directive may end as a level or target, a level, or a target. A level, when
given, is `trace`, `debug`, `info`, `warn`, `error` or `off` in any case, or a
number from `0` to `5`.

The texts of a level, a target or a field are cut from the directive as it was
given, at the byte offsets found in the trimmed one: with blanks in front,
the cuts fall early, so that ` a=info` reads the level `=info`.

A field is `name` or `name=value`; a value that is not `true`, `false` or a
number is a pattern, which must be well formed (`Text.Pattern`).
-/

namespace LoadScenario.Cli

/-- Why a directive is skipped. -/
inductive DirectiveError where
  /-- The directive does not have the shape of one. -/
  | invalid
  /-- Its level is not one. -/
  | level
  /-- One of its fields has a value that does not compile, for the reason given. -/
  | field (reason : String)
  deriving DecidableEq, Repr

/-- The reason printed for a skipped directive. -/
def DirectiveError.text : DirectiveError → String
  | .invalid => "invalid filter directive"
  | .level =>
    "error parsing level filter: expected one of \"off\", \"error\", \"warn\", \"info\", " ++
      "\"debug\", \"trace\", or a number 0-5"
  | .field reason => "invalid field filter: " ++ reason

/-- Whether a word is a whole number in decimal, with an optional leading `+`,
and its value. -/
def unsignedValue? (w : String) : Option Nat :=
  let digits := match w.toList with
    | '+' :: rest => rest
    | cs => cs
  if !digits.isEmpty && digits.all Char.isDigit then
    some (digits.foldl (fun acc c => 10 * acc + (c.toNat - 48)) 0)
  else none

/-- Whether a word names a level: a number up to 5, or a level's name in any case. -/
def isLevel (w : String) : Bool :=
  match unsignedValue? w with
  | some n => n ≤ 5
  | none => ["off", "error", "warn", "info", "debug", "trace"].contains (String.ofList (w.toList.map Char.toLower))

/-- Whether the characters are one or more decimal digits. -/
def allDigits (cs : List Char) : Bool := !cs.isEmpty && cs.all Char.isDigit

/-- Whether a word is a decimal floating-point number: an optional sign, then
`inf`, `infinity` or `nan` in any case, or digits with an optional point and
an optional exponent, with at least one digit before or after the point. -/
def isFloatText (w : String) : Bool :=
  let body := match w.toList with
    | '+' :: rest | '-' :: rest => rest
    | cs => cs
  let lower := String.ofList (body.map Char.toLower)
  if ["inf", "infinity", "nan"].contains lower then true
  else
    let mantissa := body.takeWhile fun c => c != 'e' && c != 'E'
    let exponent := body.drop mantissa.length
    let whole := mantissa.takeWhile (· != '.')
    let fraction := mantissa.drop whole.length
    let mantissaOk := match fraction with
      | [] => allDigits whole
      | _ :: frac => (whole.all Char.isDigit && frac.all Char.isDigit) && (!whole.isEmpty || !frac.isEmpty)
    let exponentOk := match exponent with
      | [] => true
      | _ :: rest =>
        match rest with
        | '+' :: ds | '-' :: ds => allDigits ds
        | ds => allDigits ds
    mantissaOk && exponentOk

/-- The reason a pattern with a Unicode word boundary does not compile. -/
def wordBoundaryReason : String :=
  "unsupported regex feature for DFAs: cannot build DFAs for regexes with Unicode word " ++
    "boundaries; switch to ASCII word boundaries, or heuristically enable Unicode word " ++
    "boundaries or use a different regex engine"

/-- Why a field of a directive does not compile, if it does not. The value is
the text between the first and the second `=`. -/
def fieldError? (field : String) : Option DirectiveError :=
  match field.splitOn "=" with
  | _ :: value :: _ =>
    if value == "true" || value == "false" || isFloatText value then none
    else
      match Text.Pattern.check value with
      | .accepted => none
      | .malformed => some (.field "error building NFA")
      | .wordBoundary => some (.field wordBoundaryReason)
  | _ => none

/-- The characters of a text with the byte offset of each. -/
def withOffsets : Nat → List Char → List (Nat × Char)
  | _, [] => []
  | o, c :: cs => (o, c) :: withOffsets (o + c.utf8Size) cs

/-- The part of a text from byte `start`, up to byte `stop` if given. -/
def cut (text : String) (start : Nat) (stop : Option Nat) : String :=
  String.ofList ((withOffsets 0 text.toList).filterMap fun (o, c) =>
    if start ≤ o && stop.all (o < ·) then some c else none)

/-- Where reading a directive stands. -/
inductive Stage where
  | start
  | levelOrTarget (start : Nat)
  | span (start : Nat)
  | field (start : Nat)
  | fields
  | target
  | level (start : Nat)
  | complete
  deriving DecidableEq, Repr

/-- Checks a level cut from a directive: empty means every level. -/
def checkLevel (text : String) : Except DirectiveError Unit :=
  if text.isEmpty || isLevel text then .ok () else .error .level

/-- Checks a field cut from a directive. -/
def checkField (text : String) : Except DirectiveError Unit :=
  if text.isEmpty then .error .invalid
  else
    match fieldError? text with
    | some e => .error e
    | none => .ok ()

/-- The stage after reading the character `c` at byte `i` of the trimmed
directive, with `given` the directive as given. -/
def advance (given : String) (stage : Stage) (i : Nat) (c : Char) : Except DirectiveError Stage :=
  match stage, c with
  | .start, '[' => .ok (.span (i + 1))
  | .start, c =>
    if ['-', ':', '_'].contains c || Text.isAlphanumeric c then .ok (.levelOrTarget i)
    else .error .invalid
  | .levelOrTarget _, '=' => .ok (.level (i + 1))
  | .levelOrTarget _, '[' => .ok (.span (i + 1))
  | .levelOrTarget _, ',' => .ok .complete
  | .levelOrTarget s, _ => .ok (.levelOrTarget s)
  | .target, '=' => .ok (.level (i + 1))
  | .span _, ']' => .ok .target
  | .span _, '{' => .ok (.field (i + 1))
  | .span s, _ => .ok (.span s)
  | .field s, '}' => do
    checkField (cut given s (some i))
    pure .fields
  | .field s, ',' => do
    checkField (cut given s (some i))
    pure (.field (i + 1))
  | .field s, _ => .ok (.field s)
  | .fields, ']' => .ok .target
  | .level s, ',' => do
    checkLevel (cut given s (some i))
    pure .complete
  | .level s, _ => .ok (.level s)
  | _, _ => .error .invalid

/-- Reads the characters of the trimmed directive, with their offsets. -/
def readStages (given : String) : Stage → List (Nat × Char) → Except DirectiveError Stage
  | stage, [] => .ok stage
  | stage, (i, c) :: more => do
    let next ← advance given stage i c
    readStages given next more

/-- Checks a directive: why it is skipped, if it is. -/
def checkDirective (given : String) : Except DirectiveError Unit := do
  let trimmed := ((given.toList.dropWhile Text.isWhiteSpace).reverse.dropWhile Text.isWhiteSpace).reverse
  match ← readStages given .start (withOffsets 0 trimmed) with
  | .levelOrTarget _ | .target | .complete => pure ()
  | .level s => checkLevel (cut given s none)
  | _ => .error .invalid

/-- The directives of a filter. -/
def directives (filter : String) : List String :=
  (filter.splitOn ",").filter (!·.isEmpty)

/-- The warnings for the directives of a filter that are skipped, one line each. -/
def filterWarnings (filter : String) : String :=
  String.join ((directives filter).filterMap fun d =>
    match checkDirective d with
    | .ok () => none
    | .error e => some ("ignoring \x60" ++ d ++ "\x60: " ++ e.text ++ "\n"))

end LoadScenario.Cli
