import LoadScenario.Json.Value
import LoadScenario.Decimal.Layout

/-!
# Writing values as compact JSON

The compact text of a value: no blanks, fields in key order, integers in
decimal, doubles as their shortest decimal under `Decimal.Layout.data`. In a
string, a quote, a backslash and the control characters below `0x20` are
escaped (`\n`, `\t`, … where a short form exists, `\u00XX` with lower-case hex
otherwise); every other character is written as it is.
-/

namespace LoadScenario

/-- The lower-case hex digit of a number below 16. -/
def hexDigit (n : Nat) : Char :=
  if n < 10 then Char.ofNat ('0'.toNat + n) else Char.ofNat ('a'.toNat + n - 10)

/-- The escaped form of one character inside a JSON string. -/
def escapeChar (c : Char) : List Char :=
  if c = '"' then ['\\', '"']
  else if c = '\\' then ['\\', '\\']
  else if c = '\n' then ['\\', 'n']
  else if c = '\r' then ['\\', 'r']
  else if c = '\t' then ['\\', 't']
  else if c.toNat = 8 then ['\\', 'b']
  else if c.toNat = 12 then ['\\', 'f']
  else if c.toNat < 32 then ['\\', 'u', '0', '0', hexDigit (c.toNat / 16), hexDigit (c.toNat % 16)]
  else [c]

/-- A string as a JSON string literal. -/
def quoteString (s : String) : String :=
  String.ofList ('"' :: (s.toList.flatMap escapeChar ++ ['"']))

namespace Number

/-- The text of a number; a double that is not finite is written `null`. -/
def render : Number → String
  | .nat n => toString n.toNat
  | .neg n => toString n.toInt
  | .float x => if x.isFinite then Decimal.Layout.data.render x else "null"

end Number

namespace Value

/-- The compact JSON text of a value. -/
def render : Value → String
  | .null => "null"
  | .bool true => "true"
  | .bool false => "false"
  | .number n => n.render
  | .string s => quoteString s
  | .array xs => "[" ++ ",".intercalate (renderList xs) ++ "]"
  | .object fs => "\x7b" ++ ",".intercalate (renderFields fs) ++ "\x7d"
where
  /-- The texts of the members of an array. -/
  renderList : List Value → List String
    | [] => []
    | x :: xs => render x :: renderList xs
  /-- The texts of the fields of an object. -/
  renderFields : List (String × Value) → List String
    | [] => []
    | (k, x) :: fs => (quoteString k ++ ":" ++ render x) :: renderFields fs

/-- `n` blanks. -/
def blanks (n : Nat) : String := String.ofList (List.replicate n ' ')

/-- The laid-out JSON text of a value at nesting `depth`: the members of a
non-empty array or object one per line, two blanks deeper than the bracket that
holds them; an empty array or object stays on one line. -/
def renderPretty (depth : Nat) : Value → String
  | .array [] => "[]"
  | .object [] => "\x7b\x7d"
  | .array xs =>
    "[\n" ++ ",\n".intercalate (prettyList depth xs) ++ "\n" ++ blanks (2 * depth) ++ "]"
  | .object fs =>
    "\x7b\n" ++ ",\n".intercalate (prettyFields depth fs) ++ "\n" ++ blanks (2 * depth) ++ "\x7d"
  | v => v.render
where
  /-- The lines of the members of an array. -/
  prettyList (depth : Nat) : List Value → List String
    | [] => []
    | x :: xs => (blanks (2 * depth + 2) ++ renderPretty (depth + 1) x) :: prettyList depth xs
  /-- The lines of the fields of an object. -/
  prettyFields (depth : Nat) : List (String × Value) → List String
    | [] => []
    | (k, x) :: fs =>
      (blanks (2 * depth + 2) ++ quoteString k ++ ": " ++ renderPretty (depth + 1) x) ::
        prettyFields depth fs

end Value

/-- The laid-out JSON text of an object whose fields are written in the given
order rather than sorted by key. -/
def renderPrettyRecord (fields : List (String × Value)) : String :=
  if fields.isEmpty then "\x7b\x7d"
  else "\x7b\n" ++ ",\n".intercalate (Value.renderPretty.prettyFields 0 fields) ++ "\n\x7d"

end LoadScenario
