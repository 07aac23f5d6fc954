import LoadScenario.Json.Value
import LoadScenario.Decimal.Read
import LoadScenario.Decimal.Layout
import LoadScenario.Text.Debug

/-!
# Reading JSON text

`Value.parse` reads one JSON value from a text, with blanks around it, and
`Value.parseList` reads a text that must hold a JSON array. A failure names
what went wrong and where: the line, and the column counted in bytes since the
last line break. The text is read byte by byte: a problem found at a character
that was looked at is placed one byte past the position reached, even when the
character takes more bytes, and a `\u` escape takes the next four bytes.

Numbers keep their kind. Digits without point or exponent that fit 64 bits are
a natural number; with a leading minus, an integer from `-2^63` to `-1`; all
else is a double, built by scaling the digits read so far (at most 64 bits of
them) by a power of ten. Containers nest at most 127 deep.
-/

namespace LoadScenario

/-- What a JSON text got wrong. -/
inductive ReadIssue where
  | eofList
  | eofObject
  | eofString
  | eofValue
  | expectedColon
  | expectedListCommaOrEnd
  | expectedObjectCommaOrEnd
  | expectedIdent
  | expectedValue
  | invalidEscape
  | invalidNumber
  | numberOutOfRange
  | controlCharacter
  | keyMustBeString
  | loneLeadingSurrogate
  | trailingComma
  | trailingCharacters
  | unexpectedEndOfHexEscape
  | recursionLimit
  | invalidType (found expected : String)
  deriving Inhabited

/-- The text of an issue. -/
def ReadIssue.message : ReadIssue → String
  | .eofList => "EOF while parsing a list"
  | .eofObject => "EOF while parsing an object"
  | .eofString => "EOF while parsing a string"
  | .eofValue => "EOF while parsing a value"
  | .expectedColon => "expected `:`"
  | .expectedListCommaOrEnd => "expected `,` or `]`"
  | .expectedObjectCommaOrEnd => "expected `,` or `\x7d`"
  | .expectedIdent => "expected ident"
  | .expectedValue => "expected value"
  | .invalidEscape => "invalid escape"
  | .invalidNumber => "invalid number"
  | .numberOutOfRange => "number out of range"
  | .controlCharacter => "control character (\\u0000-\\u001F) found while parsing a string"
  | .keyMustBeString => "key must be a string"
  | .loneLeadingSurrogate => "lone leading surrogate in hex escape"
  | .trailingComma => "trailing comma"
  | .trailingCharacters => "trailing characters"
  | .unexpectedEndOfHexEscape => "unexpected end of hex escape"
  | .recursionLimit => "recursion limit exceeded"
  | .invalidType found expected => "invalid type: " ++ found ++ ", expected " ++ expected

/-- A failed read: the issue and where it was found. -/
structure ReadError where
  issue : ReadIssue
  line : Nat
  column : Nat
  deriving Inhabited

/-- The text of a failed read. -/
def ReadError.message (e : ReadError) : String :=
  e.issue.message ++ " at line " ++ toString e.line ++ " column " ++ toString e.column

/-- The unread rest of a text, with the line and byte column reached. -/
structure Cursor where
  rest : List Char
  line : Nat
  column : Nat

namespace Cursor

/-- A cursor at the start of a text. -/
def start (s : String) : Cursor := ⟨s.toList, 1, 0⟩

/-- The next character, not taken. -/
def peek (c : Cursor) : Option Char := c.rest.head?

/-- Takes one character. -/
def advance (c : Cursor) : Cursor :=
  match c.rest with
  | [] => c
  | '\n' :: r => ⟨r, c.line + 1, 0⟩
  | ch :: r => ⟨r, c.line, c.column + ch.utf8Size⟩

/-- An issue placed at the position reached. -/
def fail {α : Type} (c : Cursor) (i : ReadIssue) : Except ReadError α :=
  .error ⟨i, c.line, c.column⟩

/-- An issue placed one byte past the position reached, or at the end. -/
def failAhead {α : Type} (c : Cursor) (i : ReadIssue) : Except ReadError α :=
  match c.rest with
  | [] => .error ⟨i, c.line, c.column⟩
  | '\n' :: _ => .error ⟨i, c.line + 1, 0⟩
  | _ :: _ => .error ⟨i, c.line, c.column + 1⟩

/-- Skips blanks: space, tab, carriage return and line feed. -/
def skipBlank (c : Cursor) : Cursor :=
  go c.rest c.line c.column
where
  /-- Skips blanks from the given characters and position. -/
  go : List Char → Nat → Nat → Cursor
    | ch :: r, l, col =>
      if ch = ' ' ∨ ch = '\t' ∨ ch = '\r' then go r l (col + 1)
      else if ch = '\n' then go r (l + 1) 0
      else ⟨ch :: r, l, col⟩
    | [], l, col => ⟨[], l, col⟩

/-- Takes the decimal digits that follow. -/
def takeDigits (c : Cursor) : List Char × Cursor :=
  let ds := c.rest.takeWhile Char.isDigit
  (ds, ⟨c.rest.drop ds.length, c.line, c.column + ds.length⟩)

end Cursor

/-! ## Numbers -/

/-- The largest unsigned 64-bit integer. -/
def u64Max : Nat := Nat.pow 2 64 - 1

/-- Adds digits to a significand while it stays within 64 bits; the digits
that would overflow it are returned unused. -/
def accumulateDigits (sig : Nat) : List Char → Nat × List Char
  | [] => (sig, [])
  | d :: ds =>
    let next := 10 * sig + Decimal.digitValue d
    if u64Max < next then (sig, d :: ds) else accumulateDigits next ds

/-- The largest signed 32-bit integer, the bound on a written exponent. -/
def i32Max : Nat := Nat.pow 2 31 - 1

/-- Adds exponent digits while the exponent stays within 32 signed bits; on
overflow, the number of digits taken including the one that overflowed. -/
def accumulateExponent (e : Nat) : List Char → Nat → Sum Nat Nat
  | [], _ => .inl e
  | d :: ds, taken =>
    let next := 10 * e + Decimal.digitValue d
    if i32Max < next then .inr (taken + 1) else accumulateExponent next ds (taken + 1)

/-- `10^i` as the nearest double. -/
def pow10 (i : Nat) : Float := Decimal.ofDecimal false 1 i

/-- The double `sig · 10^e`, by multiplying or dividing the nearest double of
`sig` by the nearest double of a power of ten; `none` when that overflows.
Exponents beyond 308 are brought into range by dividing by `1e308` first. -/
def scaleDigits (positive : Bool) (sig : Nat) (e : Int) : Option Float :=
  let f := Decimal.ofNat sig
  (go 4 f e).map fun x => if positive then x else -x
where
  /-- Applies the power of ten; each round below `-308` divides by `1e308`. -/
  go : Nat → Float → Int → Option Float
    | 0, f, _ => some f
    | fuel + 1, f, e =>
      if e.natAbs ≤ 308 then
        if 0 ≤ e then
          let g := f * pow10 e.natAbs
          if g.isInf then none else some g
        else some (f / pow10 e.natAbs)
      else if f == 0.0 then some f
      else if 0 ≤ e then none
      else go fuel (f / pow10 308) (e + 308)

/-- Clamps to the signed 32-bit range. -/
def clampI32 (e : Int) : Int := max (-(Int.pow 2 31)) (min (Int.pow 2 31 - 1) e)

/-- The double `sig · 10^e` or a range error at the cursor. -/
def finishFloat (positive : Bool) (sig : Nat) (e : Int) (c : Cursor) :
    Except ReadError (Number × Cursor) :=
  match scaleDigits positive sig e with
  | some x => .ok (.float x, c)
  | none => c.fail .numberOutOfRange

/-- The exponent part, at the `e` or `E`. -/
def readExponentPart (positive : Bool) (sig : Nat) (startExp : Int) (c : Cursor) :
    Except ReadError (Number × Cursor) :=
  let c := c.advance
  let (plus, c) := match c.peek with
    | some '+' => (true, c.advance)
    | some '-' => (false, c.advance)
    | _ => (true, c)
  match c.peek with
  | none => c.fail .eofValue
  | some d =>
    if !d.isDigit then c.failAhead .invalidNumber
    else
      let c := c.advance
      let (ds, after) := c.takeDigits
      match accumulateExponent (Decimal.digitValue d) ds 0 with
      | .inr taken =>
        if sig ≠ 0 ∧ plus then
          (⟨c.rest.drop taken, c.line, c.column + taken⟩ : Cursor).fail .numberOutOfRange
        else .ok (.float (if positive then 0.0 else -0.0), after)
      | .inl e =>
        let final := clampI32 (if plus then startExp + e else startExp - e)
        finishFloat positive sig final after

/-- The fraction part, at the point. -/
def readFractionPart (positive : Bool) (sig : Nat) (startExp : Int) (c : Cursor) :
    Except ReadError (Number × Cursor) :=
  let c := c.advance
  let (ds, after) := c.takeDigits
  let (sig', unused) := accumulateDigits sig ds
  let used := ds.length - unused.length
  if ds.isEmpty then
    match after.peek with
    | some _ => after.failAhead .invalidNumber
    | none => after.failAhead .eofValue
  else
    let e := startExp - used
    match after.peek with
    | some 'e' | some 'E' => readExponentPart positive sig' e after
    | _ => finishFloat positive sig' e after

/-- What follows the integer digits: a fraction, an exponent, or nothing. -/
def readNumberTail (positive : Bool) (sig : Nat) (extraExp : Nat) (c : Cursor) :
    Except ReadError (Number × Cursor) :=
  match c.peek with
  | some '.' => readFractionPart positive sig extraExp c
  | some 'e' | some 'E' => readExponentPart positive sig extraExp c
  | _ =>
    if extraExp ≠ 0 then finishFloat positive sig extraExp c
    else if positive then .ok (.nat (UInt64.ofNat sig), c)
    else if 1 ≤ sig ∧ sig ≤ Nat.pow 2 63 then .ok (.neg (Int64.ofInt (-(sig : Int))), c)
    else .ok (.float (-(Decimal.ofNat sig)), c)

/-- A number after its sign: `0` alone or digits not starting with `0`. -/
def readNumber (positive : Bool) (c : Cursor) : Except ReadError (Number × Cursor) :=
  match c.peek with
  | none => c.fail .eofValue
  | some ch =>
    let c1 := c.advance
    if ch = '0' then
      match c1.peek with
      | some d => if d.isDigit then c1.failAhead .invalidNumber else readNumberTail positive 0 0 c1
      | none => readNumberTail positive 0 0 c1
    else if ch.isDigit then
      let (ds, after) := c1.takeDigits
      let (sig, unused) := accumulateDigits (Decimal.digitValue ch) ds
      readNumberTail positive sig unused.length after
    else c.failAhead .invalidNumber

/-! ## Strings -/

/-- The value of a hex digit. -/
def hexValue? (c : Char) : Option Nat :=
  if c.isDigit then some (c.toNat - '0'.toNat)
  else if 'a' ≤ c ∧ c ≤ 'f' then some (c.toNat - 'a'.toNat + 10)
  else if 'A' ≤ c ∧ c ≤ 'F' then some (c.toNat - 'A'.toNat + 10)
  else none

/-- The cursor `n` bytes further on, from the characters `rest` at line `l`
and column `col`. A character that the count ends inside is taken in part:
only the error that follows looks at the position then. -/
def bytesAhead : List Char → Nat → Nat → Nat → Cursor
  | [], _, l, col => ⟨[], l, col⟩
  | ch :: r, n, l, col =>
    if n = 0 then ⟨ch :: r, l, col⟩
    else if ch = '\n' then bytesAhead r (n - 1) (l + 1) 0
    else if ch.utf8Size ≤ n then bytesAhead r (n - ch.utf8Size) l (col + ch.utf8Size)
    else ⟨r, l, col + n⟩

/-- Four hex digits after `\u`: the next four bytes are taken, whatever they
are, or all that is left when fewer remain. -/
def readHex4 (c : Cursor) : Except ReadError (Nat × Cursor) :=
  let after := bytesAhead c.rest 4 c.line c.column
  if (c.rest.map Char.utf8Size).foldr (· + ·) 0 < 4 then after.fail .eofString
  else
    match (c.rest.take 4).mapM hexValue? with
    | some vs => .ok (vs.foldl (fun n v => 16 * n + v) 0, after)
    | none => after.fail .invalidEscape

/-- A `\u` escape, with a second one for a surrogate pair. -/
def readUnicodeEscape (c : Cursor) : Except ReadError (Char × Cursor) := do
  let (n, c) ← readHex4 c
  if 0xDC00 ≤ n ∧ n ≤ 0xDFFF then c.fail .loneLeadingSurrogate
  else if n < 0xD800 ∨ 0xDBFF < n then pure (Char.ofNat n, c)
  else
    match c.peek with
    | none => c.fail .eofString
    | some '\\' =>
      let c := c.advance
      match c.peek with
      | none => c.fail .eofString
      | some 'u' =>
        let (n2, c) ← readHex4 c.advance
        if n2 < 0xDC00 ∨ 0xDFFF < n2 then c.fail .loneLeadingSurrogate
        else pure (Char.ofNat ((n - 0xD800) * 0x400 + (n2 - 0xDC00) + 0x10000), c)
      | some _ => c.failAhead .unexpectedEndOfHexEscape
    | some _ => c.failAhead .unexpectedEndOfHexEscape

/-- The escaped character after a backslash. -/
def readEscape (c : Cursor) : Except ReadError (Char × Cursor) :=
  match c.peek with
  | none => c.fail .eofString
  | some e =>
    let c1 := c.advance
    match e with
    | '"' => .ok ('"', c1)
    | '\\' => .ok ('\\', c1)
    | '/' => .ok ('/', c1)
    | 'b' => .ok (Char.ofNat 8, c1)
    | 'f' => .ok (Char.ofNat 12, c1)
    | 'n' => .ok ('\n', c1)
    | 'r' => .ok ('\r', c1)
    | 't' => .ok ('\t', c1)
    | 'u' => readUnicodeEscape c1
    | _ => c.failAhead .invalidEscape

/-- The characters of a string up to its closing quote, which is taken.
Each round takes at least one character, so the length of the rest bounds it. -/
def readStringBody (c : Cursor) : Except ReadError (String × Cursor) :=
  go (c.rest.length + 1) c []
where
  /-- Reads with `fuel` rounds left, the characters so far reversed in `acc`. -/
  go : Nat → Cursor → List Char → Except ReadError (String × Cursor)
    | 0, c, _ => c.fail .eofString
    | fuel + 1, c, acc =>
      match c.peek with
      | none => c.fail .eofString
      | some '"' => .ok (String.ofList acc.reverse, c.advance)
      | some '\\' =>
        match readEscape c.advance with
        | .ok (ch, c') => go fuel c' (ch :: acc)
        | .error e => .error e
      | some ch =>
        if ch.toNat < 0x20 then c.advance.fail .controlCharacter
        else go fuel c.advance (ch :: acc)

/-- Takes the rest of a word such as `null` after its first letter. -/
def readWord (c : Cursor) : List Char → Except ReadError Cursor
  | [] => .ok c
  | w :: ws =>
    match c.peek with
    | none => c.fail .eofValue
    | some ch => if ch = w then readWord c.advance ws else c.failAhead .expectedIdent

/-! ## Values -/

/-- Containers may nest this deep less one. -/
def depthLimit : Nat := 128

mutual

/-- A value after blanks. `depth` counts the nesting still allowed; `fuel`
bounds the rounds and is never the limit for a text of the assumed size. -/
def readValue : Nat → Nat → Cursor → Except ReadError (Value × Cursor)
  | 0, _, c => c.fail .recursionLimit
  | fuel + 1, depth, c =>
    let c := c.skipBlank
    match c.peek with
    | none => c.failAhead .eofValue
    | some 'n' => (readWord c.advance "ull".toList).map fun c => (.null, c)
    | some 't' => (readWord c.advance "rue".toList).map fun c => (.bool true, c)
    | some 'f' => (readWord c.advance "alse".toList).map fun c => (.bool false, c)
    | some '-' => (readNumber false c.advance).map fun (n, c) => (.number n, c)
    | some '"' => (readStringBody c.advance).map fun (s, c) => (.string s, c)
    | some '[' =>
      if depth ≤ 1 then c.failAhead .recursionLimit
      else do
        let (items, c) ← readItems fuel (depth - 1) c.advance true []
        let c := c.skipBlank
        match c.peek with
        | some ']' => pure (.array items, c.advance)
        | some ',' => c.failAhead .trailingComma
        | some _ => c.failAhead .trailingCharacters
        | none => c.failAhead .eofList
    | some '{' =>
      if depth ≤ 1 then c.failAhead .recursionLimit
      else do
        let (fields, c) ← readFields fuel (depth - 1) c.advance true []
        let c := c.skipBlank
        match c.peek with
        | some '}' => pure (.object fields, c.advance)
        | some ',' => c.failAhead .trailingComma
        | some _ => c.failAhead .trailingCharacters
        | none => c.failAhead .eofObject
    | some ch =>
      if ch.isDigit then (readNumber true c).map fun (n, c) => (.number n, c)
      else c.failAhead .expectedValue

/-- The members of an array up to, not including, its closing bracket. -/
def readItems : Nat → Nat → Cursor → Bool → List Value →
    Except ReadError (List Value × Cursor)
  | 0, _, c, _, _ => c.fail .recursionLimit
  | fuel + 1, depth, c, first, acc =>
    let c := c.skipBlank
    match c.peek with
    | none => c.failAhead .eofList
    | some ']' => .ok (acc.reverse, c)
    | some ch =>
      if first then do
        let (v, c) ← readValue fuel depth c
        readItems fuel depth c false (v :: acc)
      else if ch = ',' then
        let c := c.advance.skipBlank
        match c.peek with
        | some ']' => c.failAhead .trailingComma
        | some _ => do
          let (v, c) ← readValue fuel depth c
          readItems fuel depth c false (v :: acc)
        | none => c.failAhead .eofValue
      else c.failAhead .expectedListCommaOrEnd

/-- The fields of an object up to, not including, its closing brace; a later
field with the same key wins. -/
def readFields : Nat → Nat → Cursor → Bool → List (String × Value) →
    Except ReadError (List (String × Value) × Cursor)
  | 0, _, c, _, _ => c.fail .recursionLimit
  | fuel + 1, depth, c, first, acc =>
    let c := c.skipBlank
    match c.peek with
    | none => c.failAhead .eofObject
    | some '}' => .ok (acc, c)
    | some ch =>
      let keyStart : Except ReadError Cursor :=
        if first then
          if ch = '"' then .ok c else c.failAhead .keyMustBeString
        else if ch = ',' then
          let c := c.advance.skipBlank
          match c.peek with
          | some '"' => .ok c
          | some '}' => c.failAhead .trailingComma
          | some _ => c.failAhead .keyMustBeString
          | none => c.failAhead .eofValue
        else c.failAhead .expectedObjectCommaOrEnd
      match keyStart with
      | .error e => .error e
      | .ok c => do
        let (key, c) ← readStringBody c.advance
        let c := c.skipBlank
        match c.peek with
        | some ':' =>
          let (v, c) ← readValue fuel depth c.advance
          readFields fuel depth c false (Fields.insert acc key v)
        | some _ => c.failAhead .expectedColon
        | none => c.failAhead .eofObject

end

/-- Rounds enough for any text: each round takes a character or ends a container. -/
def readFuel (s : String) : Nat := 2 * s.length + 4

/-- Blanks only may follow the value. -/
def Cursor.finish (c : Cursor) : Except ReadError Unit :=
  let c := c.skipBlank
  match c.peek with
  | none => .ok ()
  | some _ => c.failAhead .trailingCharacters

/-- Reads one JSON value, with blanks around it. -/
def Value.parse (s : String) : Except ReadError Value := do
  let (v, c) ← readValue (readFuel s) depthLimit (Cursor.start s)
  c.finish
  pure v

/-- How a number is named when it is not what was expected. -/
def Number.unexpected : Number → String
  | .nat n => "integer `" ++ toString n.toNat ++ "`"
  | .neg n => "integer `" ++ toString n.toInt ++ "`"
  | .float x => "floating point `" ++ Decimal.Layout.data.render x ++ "`"

/-- The name of the value that starts at the cursor, for a wrong-type error
placed after it; containers are named without being read. -/
def unexpectedAt (c : Cursor) : Except ReadError (String × Cursor) :=
  match c.peek with
  | some 'n' => (readWord c.advance "ull".toList).map fun c => ("null", c)
  | some 't' => (readWord c.advance "rue".toList).map fun c => ("boolean `true`", c)
  | some 'f' => (readWord c.advance "alse".toList).map fun c => ("boolean `false`", c)
  | some '-' => (readNumber false c.advance).map fun (n, c) => (n.unexpected, c)
  | some '"' => (readStringBody c.advance).map fun (s, c) => ("string " ++ Text.debugQuote s, c)
  | some '[' => .ok ("sequence", c)
  | some '\x7b' => .ok ("map", c)
  | some ch =>
    if ch.isDigit then (readNumber true c).map fun (n, c) => (n.unexpected, c)
    else c.failAhead .expectedValue
  | none => c.failAhead .eofValue

/-- Reads a text that must hold one JSON array, with blanks around it. -/
def Value.parseList (s : String) : Except ReadError (List Value) := do
  let c := (Cursor.start s).skipBlank
  match c.peek with
  | some '[' =>
    let (v, c) ← readValue (readFuel s) depthLimit c
    c.finish
    match v with
    | .array items => pure items
    | _ => pure []
  | _ =>
    let (found, c) ← unexpectedAt c
    c.fail (.invalidType found "a sequence")

end LoadScenario
