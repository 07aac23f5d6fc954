import LoadScenario.Toml.Error
import LoadScenario.Toml.Document
import LoadScenario.Decimal.Binary

/-!
# The grammar of TOML

Reads a TOML text into a `Builder` line by line: comments, blank lines,
key/value pairs, table headers `[a.b]` and array-of-tables headers `[[a.b]]`.
Values are strings (basic, literal and their multi-line forms), integers
(decimal, or `0x`, `0o`, `0b`), floats (with `inf` and `nan`), booleans,
date-times, arrays and inline tables; arrays and inline tables nest at most 79
deep.

Each construct commits as soon as its first token is seen, so that an error is
reported where the construct goes wrong, with what was expected there.
-/

namespace LoadScenario.Toml

open Parser

/-! ## Blanks, line breaks and comments -/

/-- A space or a tab. -/
def isBlank (c : Char) : Bool := c == ' ' || c == '\t'

/-- A character outside ASCII. -/
def isNonAscii (c : Char) : Bool := 0x80 ≤ c.toNat

/-- A character allowed in a comment. -/
def isCommentChar (c : Char) : Bool :=
  c == '\t' || (0x20 ≤ c.toNat && c.toNat ≤ 0x7E) || isNonAscii c

/-- Spaces and tabs. -/
def blanks : Parser Unit := (fun _ => ()) <$> takeWhile isBlank

/-- A line break: a line feed, or a carriage return and a line feed. -/
def newline : Parser Unit := do
  match ← anyChar with
  | '\n' => pure ()
  | '\r' => char '\n'
  | _ => fail

/-- A comment, up to the end of its line. -/
def comment : Parser Unit := char '#' *> (fun _ => ()) <$> takeWhile isCommentChar

/-- The end of a line: a line break or the end of the text. -/
def lineEnd : Parser Unit := alt [newline, eof]

/-- What may follow a value or a header on its line: blanks, a comment, the line's end. -/
def lineRest : Parser Unit := blanks *> opt comment *> lineEnd

/-- Blanks and line breaks. -/
def blankLines : Parser Unit := (fun _ => ()) <$> many (alt [newline, (fun _ => ()) <$> takeWhile1 isBlank])

/-- A line break, then blanks and line breaks. -/
def breakThenBlankLines : Parser Unit := newline *> blankLines

/-- Blanks, line breaks and comments, as between the members of an array. -/
def blankLinesAndComments : Parser Unit := fun c => go (c.rest.length + 1) c
where
  /-- At most `fuel` more lines. -/
  go : Nat → Cursor → Except Failure (Unit × Cursor)
    | 0, c => .ok ((), c)
    | fuel + 1, c => do
      let ((), c1) ← blanks c
      let next : Option (Parser Unit) := match c1.peek with
        | some '#' => some (comment *> newline)
        | some '\n' | some '\r' => some newline
        | _ => none
      match next with
      | none => .ok ((), c1)
      | some p =>
        let ((), c2) ← p c1
        if c2.pos == c.pos then .ok ((), c2) else go fuel c2

/-! ## Strings -/

/-- A character that a basic string holds as it is. -/
def isBasicChar (c : Char) : Bool :=
  isBlank c || c.toNat == 0x21 || (0x23 ≤ c.toNat && c.toNat ≤ 0x5B) ||
    (0x5D ≤ c.toNat && c.toNat ≤ 0x7E) || isNonAscii c

/-- A character that a literal string holds. -/
def isLiteralChar (c : Char) : Bool :=
  c == '\t' || (0x20 ≤ c.toNat && c.toNat ≤ 0x26) || (0x28 ≤ c.toNat && c.toNat ≤ 0x7E) ||
    isNonAscii c

/-- A hexadecimal digit. -/
def isHexDigit (c : Char) : Bool :=
  c.isDigit || ('a' ≤ c && c ≤ 'f') || ('A' ≤ c && c ≤ 'F')

/-- The value of hexadecimal digits. -/
def hexValue (s : String) : Nat :=
  s.foldl (fun n c => 16 * n + (if c.isDigit then c.toNat - '0'.toNat
    else if 'a' ≤ c && c ≤ 'f' then c.toNat - 'a'.toNat + 10 else c.toNat - 'A'.toNat + 10)) 0

/-- The character of a code point, unless it is a surrogate or beyond the last one. -/
def codePoint (n : Nat) : Except String Char :=
  if (0xD800 ≤ n && n ≤ 0xDFFF) || 0x10FFFF < n then .error Issue.outOfRange.message
  else .ok (Char.ofNat n)

/-- A code point of exactly `n` hexadecimal digits. -/
def hexEscape (n : Nat) : Parser Char :=
  ((takeBetween 0 n isHexDigit).verify (·.length == n)).tryMap fun s => codePoint (hexValue s)

/-- The characters that may follow a backslash. -/
def escapeChars : List Char := ['b', 'f', 'n', 'r', 't', 'u', 'U', '\\', '"']

/-- The failure after a backslash that starts no escape. -/
def badEscape : Parser Char :=
  escapeChars.foldl (fun p c => p.context (.char c)) ((cut fail).context (.label "escape sequence"))

/-- What a backslash stands for with the characters after it. -/
def escapeCode : Parser Char := do
  match ← anyChar with
  | 'b' => pure '\x08'
  | 'f' => pure '\x0c'
  | 'n' => pure '\n'
  | 'r' => pure '\r'
  | 't' => pure '\t'
  | 'u' => (cut (hexEscape 4)).context (.label "unicode 4-digit hex code")
  | 'U' => (cut (hexEscape 8)).context (.label "unicode 8-digit hex code")
  | '\\' => pure '\\'
  | '"' => pure '"'
  | _ => badEscape

/-- A backslash escape. -/
def escaped : Parser Char := char '\\' *> escapeCode

/-- A basic string `"…"`. -/
def basicString : Parser String := do
  char '"'
  let parts ← many (alt [takeWhile1 isBasicChar, Char.toString <$> escaped])
  (cut (char '"')).context (.label "basic string")
  pure (String.join parts)

/-- A literal string `'…'`. -/
def literalString : Parser String :=
  (char '\'' *> cut (takeWhile isLiteralChar) <* cut (char '\'')).context (.label "literal string")

/-- One or two quote marks `q` followed by what `after` accepts. -/
def closingQuotes (q : Char) (after : Parser Unit) : Parser String :=
  let two := String.ofList [q, q]
  orElse ((fun _ => two) <$> (literal two <* lookahead after))
    ((fun _ => q.toString) <$> (char q <* lookahead after))

/-- A piece of a multi-line basic string: plain characters, a line-ending
backslash with the blanks after it (dropped), an escape, or a line break. -/
def multiLinePiece : Parser String :=
  alt [takeWhile1 isBasicChar,
    (fun _ => "") <$> many1 (char '\\' *> blanks *> breakThenBlankLines),
    Char.toString <$> escaped,
    (fun _ => "\n") <$> newline]

/-- The body of a multi-line basic string. -/
def multiLineBody : Parser String := fun c => do
  let (first, c) ← many multiLinePiece c
  let rec go : Nat → String → Cursor → Except Failure (String × Cursor)
    | 0, acc, c => .ok (acc, c)
    | fuel + 1, acc, c => do
      match ← opt (closingQuotes '"' ((fun _ => ()) <$> satisfy (· != '"'))) c with
      | (none, c) => .ok (acc, c)
      | (some q, c) =>
        match ← opt multiLinePiece c with
        | (none, c) => .ok (acc, c)
        | (some piece, c) =>
          let (more, c) ← many multiLinePiece c
          go fuel (acc ++ q ++ piece ++ String.join more) c
  let (body, c) ← go (c.rest.length + 1) (String.join first) c
  let (tail, c) ← opt (closingQuotes '"' (literal "\"\"\"")) c
  .ok (body ++ tail.getD "", c)

/-- A multi-line basic string `"""…"""`; a line break right after the opening is dropped. -/
def multiLineBasicString : Parser String :=
  (literal "\"\"\"" *> opt newline *> cut multiLineBody <* cut (literal "\"\"\"")).context
    (.label "multiline basic string")

/-- A character that a multi-line literal string holds as it is. -/
def isMultiLineLiteralChar (c : Char) : Bool :=
  c == '\t' || (0x20 ≤ c.toNat && c.toNat ≤ 0x26) || (0x28 ≤ c.toNat && c.toNat ≤ 0x7E) ||
    isNonAscii c

/-- A character or line break of a multi-line literal string. -/
def multiLineLiteralPiece : Parser Unit :=
  alt [(fun _ => ()) <$> satisfy isMultiLineLiteralChar, newline]

/-- The text of a multi-line literal string's body, line breaks as line feeds. -/
def multiLineLiteralBody : Parser String := do
  let raw ← recognize (many multiLineLiteralPiece *>
    many (closingQuotes '\'' ((fun _ => ()) <$> satisfy (· != '\'')) *> many1 multiLineLiteralPiece) *>
    opt (closingQuotes '\'' (literal "'''")))
  pure ((raw.splitOn "\r\n").foldl (fun acc part => if acc.isEmpty then part else acc ++ "\n" ++ part) "")

/-- A multi-line literal string `'''…'''`; a line break right after the opening is dropped. -/
def multiLineLiteralString : Parser String :=
  (literal "'''" *> opt newline *> cut multiLineLiteralBody <* cut (literal "'''")).context
    (.label "multiline literal string")

/-- A string in any of its four forms. -/
def string : Parser String :=
  alt [multiLineBasicString, basicString, multiLineLiteralString, literalString]

/-! ## Keys -/

/-- A bare key: letters, digits, `-` and `_`. -/
def bareKey : Parser String := takeWhile1 fun c => c.isAlphanum || c == '-' || c == '_'

/-- A key without dots: bare, or quoted. -/
def simpleKey : Parser Key := do
  let (name, span) ← withSpan (do
    match ← peek with
    | some '"' => basicString
    | some '\'' => literalString
    | _ => bareKey)
  pure ⟨name, span⟩

/-- The deepest dotted key accepted. -/
def keyDepthLimit : Nat := 80

/-- A dotted key, with blanks around its parts. -/
def key : Parser (List Key) :=
  ((sepBy1 (blanks *> simpleKey <* blanks) (char '.')).context (.label "key")).tryMap fun ks =>
    if keyDepthLimit ≤ ks.length then .error Issue.recursionLimit.message else .ok ks

/-! ## Numbers -/

/-- A decimal digit. -/
def digit : Parser Char := satisfy Char.isDigit

/-- More digits of a number, single underscores between them. -/
def moreDigits (d : Parser Char) : Parser Unit :=
  (fun _ => ()) <$> many (alt [(fun _ => ()) <$> d,
    char '_' *> (fun _ => ()) <$> (cut d).context (.description "digit")])

/-- A sign. -/
def sign : Parser Char := satisfy fun c => c == '+' || c == '-'

/-- The text of a decimal integer: an optional sign, then `0` or digits not starting with `0`. -/
def decimalInt : Parser String :=
  (recognize (opt sign *> alt [satisfy (fun c => '1' ≤ c && c ≤ '9') *> moreDigits digit,
    (fun _ => ()) <$> digit])).context (.label "integer")

/-- The largest signed 64-bit integer. -/
def i64Max : Int := Int.pow 2 63 - 1

/-- An integer in the signed 64-bit range, or why it is not. -/
def inI64 (i : Int) : Except String Int :=
  if i64Max < i then .error "number too large to fit in target type"
  else if i < -(Int.pow 2 63) then .error "number too small to fit in target type"
  else .ok i

/-- The value of a decimal integer's text. -/
def decimalValue (s : String) : Except String Int :=
  let cs := (s.toList.filter (· != '_'))
  let (neg, ds) := match cs with
    | '-' :: ds => (true, ds)
    | '+' :: ds => (false, ds)
    | ds => (false, ds)
  let n : Int := ds.foldl (fun n c => 10 * n + (c.toNat - '0'.toNat)) 0
  inI64 (if neg then -n else n)

/-- Digits in base `radix` (2, 8 or 16) after their prefix, single underscores between them. -/
def radixInt (pre : String) (isDigitOf : Char → Bool) (what : String) : Parser String :=
  (literal pre *> cut (recognize (satisfy isDigitOf *> moreDigits (satisfy isDigitOf)))).context
    (.label what)

/-- The value of digits in base `radix`. -/
def radixValue (radix : Nat) (s : String) : Except String Int :=
  inI64 ((s.toList.filter (· != '_')).foldl (fun n c => radix * n + hexValue c.toString) 0)

/-- An integer: decimal, or hexadecimal, octal or binary after `0x`, `0o`, `0b`. -/
def integer : Parser Int := do
  match ← peek2 with
  | some ('0', 'x') => cut ((radixInt "0x" isHexDigit "hexadecimal integer").tryMap (radixValue 16))
  | some ('0', 'o') =>
    cut ((radixInt "0o" (fun c => '0' ≤ c && c ≤ '7') "octal integer").tryMap (radixValue 8))
  | some ('0', 'b') =>
    cut ((radixInt "0b" (fun c => c == '0' || c == '1') "binary integer").tryMap (radixValue 2))
  | _ => decimalInt.commitMap fun s => (decimalValue s).mapError some

/-- Digits that may start with `0`, single underscores between them. -/
def zeroPrefixable : Parser String := recognize (digit *> moreDigits digit)

/-- A fraction: a point and digits. -/
def fraction : Parser String :=
  recognize (char '.' *> (cut zeroPrefixable).context (.description "digit"))

/-- An exponent: `e` or `E`, a sign, and digits. -/
def exponent : Parser String :=
  recognize (satisfy (fun c => c == 'e' || c == 'E') *> opt sign *> cut zeroPrefixable)

/-- Positive infinity. -/
def infinity : Float := 1.0 / 0.0

/-- The double nearest to a float's text, refusing a positive overflow. -/
def floatValue (s : String) : Except String Float :=
  let cs := s.toList.filter (· != '_')
  let (neg, cs) := match cs with
    | '-' :: cs => (true, cs)
    | '+' :: cs => (false, cs)
    | cs => (false, cs)
  let (whole, cs) := (cs.takeWhile Char.isDigit, cs.dropWhile Char.isDigit)
  let (frac, cs) := match cs with
    | '.' :: rest => (rest.takeWhile Char.isDigit, rest.dropWhile Char.isDigit)
    | _ => ([], cs)
  let exp : Int := match cs with
    | _ :: '-' :: ds => -(ds.foldl (fun n c => 10 * n + (c.toNat - '0'.toNat)) 0 : Nat)
    | _ :: '+' :: ds => (ds.foldl (fun n c => 10 * n + (c.toNat - '0'.toNat)) 0 : Nat)
    | _ :: ds => (ds.foldl (fun n c => 10 * n + (c.toNat - '0'.toNat)) 0 : Nat)
    | [] => 0
  let m := (whole ++ frac).foldl (fun n c => 10 * n + (c.toNat - '0'.toNat)) 0
  let e := exp - frac.length
  let magnitude : Int := (toString m).length + e
  let x := if 310 < magnitude && m != 0 then (if neg then -infinity else infinity)
    else if magnitude < -330 || m == 0 then (if neg then -0.0 else 0.0)
    else Decimal.ofDecimal neg m e
  if x == infinity then .error "" else .ok x

/-- `inf` or `nan` with an optional sign. -/
def specialFloat : Parser Float := do
  let s ← opt sign
  let x ← alt [(fun _ => infinity) <$> literal "inf", (fun _ => 0.0 / 0.0) <$> literal "nan"]
  pure (if s == some '-' then -x else x)

/-- A float: a decimal integer part with a fraction, an exponent or both, or a special value. -/
def float : Parser Float :=
  (alt [(recognize (decimalInt *> alt [exponent, fraction *> opt exponent *> pure ""])).commitMap
      (fun s => (floatValue s).mapError fun _ => none),
    specialFloat]).context (.label "floating-point number")

/-! ## Date-times -/

/-- Exactly `n` digits, within `lo` and `hi`. -/
def digitsIn (n lo hi : Nat) : Parser Nat :=
  (takeBetween n n Char.isDigit).tryMap fun s =>
    let v := s.foldl (fun v c => 10 * v + (c.toNat - '0'.toNat)) 0
    if lo ≤ v && v ≤ hi then .ok v else .error Issue.outOfRange.message

/-- The days of a month. -/
def daysIn (year month : Nat) : Nat :=
  if month == 2 then
    if year % 4 == 0 && (year % 100 != 0 || year % 400 == 0) then 29 else 28
  else if month == 4 || month == 6 || month == 9 || month == 11 then 30 else 31

/-- A date `YYYY-MM-DD`. -/
def fullDate : Parser Unit := do
  let year ← digitsIn 4 0 9999
  char '-'
  let month ← cut (digitsIn 2 1 12)
  cut (char '-')
  let dayStart ← position
  let day ← cut (digitsIn 2 1 31)
  if daysIn year month < day then abortAt dayStart Issue.outOfRange.message else pure ()

/-- A fraction of a second: a point and digits. -/
def secondFraction : Parser Unit := (fun _ => ()) <$> (char '.' *> takeWhile1 Char.isDigit)

/-- A time `hh:mm:ss` with an optional fraction. -/
def partialTime : Parser Unit := do
  let _ ← digitsIn 2 0 23
  char ':'
  cut (do
    let _ ← digitsIn 2 0 59
    char ':'
    let _ ← digitsIn 2 0 60
    let _ ← opt secondFraction
    pure ())

/-- A time offset: `Z`, or a signed `hh:mm`. -/
def timeOffset : Parser Unit :=
  (alt [(fun _ => ()) <$> satisfy (fun c => c == 'Z' || c == 'z'),
    (fun _ => ()) <$> (sign *> cut (digitsIn 2 0 23 *> char ':' *> digitsIn 2 0 59))]).context
    (.label "time offset")

/-- A date-time, a date, or a time, as written. -/
def dateTime : Parser String :=
  alt [(recognize (fullDate *> opt (satisfy (fun c => c == 'T' || c == 't' || c == ' ') *>
      partialTime *> opt timeOffset))).context (.label "date-time"),
    (recognize partialTime).context (.label "time")]

/-! ## Values -/

/-- The deepest nesting of arrays and inline tables accepted. -/
def nestingLimit : Nat := 79

/-- A failure that names a string as expected, for a value that starts with
a letter but is no keyword. -/
def asString {α : Type} (p : Parser α) : Parser α :=
  ((p.context (.label "string")).context (.char '"')).context (.char '\'')

/-- A value, given the readers of arrays and inline tables. -/
def valueWith (array inlineTable : Parser Node) : Parser Node := do
  match ← peek with
  | some '"' | some '\'' => (fun (s, span) => Node.string s span) <$> withSpan string
  | some '[' => array
  | some '{' => inlineTable
  | some c =>
    if c == '+' || c == '-' || c.isDigit then
      (fun (n, span) => n span) <$> withSpan (alt [Node.datetime <$> dateTime,
        Node.float <$> float, Node.integer <$> integer])
    else if c == '_' then
      (fun (i, span) => Node.integer i span) <$> withSpan (integer.context (.description "leading digit"))
    else if c == '.' then
      (fun (x, span) => Node.float x span) <$> withSpan (float.context (.description "leading digit"))
    else if c == 't' then
      (fun (_, span) => Node.bool true span) <$> withSpan (asString (cut (literal "true")))
    else if c == 'f' then
      (fun (_, span) => Node.bool false span) <$> withSpan (asString (cut (literal "false")))
    else if c == 'i' then
      (fun (_, span) => Node.float infinity span) <$> withSpan (asString (literal "inf"))
    else if c == 'n' then
      (fun (_, span) => Node.float (0.0 / 0.0) span) <$> withSpan (asString (literal "nan"))
    else asString fail
  | none => fail

/-- An array whose members are read by `member`. -/
def arrayOf (member : Parser Node) : Parser Node := do
  let (items, span) ← withSpan (do
    char '['
    let items ← cut (do
      if (← peek) == some ']' then pure []
      else
        let items ← sepBy (blankLinesAndComments *> member <* blankLinesAndComments) (char ',')
        if !items.isEmpty then discard (opt (char ','))
        blankLinesAndComments
        pure items)
    ((cut (char ']')).context (.label "array")).context (.char ']')
    pure items)
  pure (.array items span)

/-- A key/value pair inside an inline table: the dotted path before the key, the key, the value. -/
def inlinePair (val : Parser Node) : Parser (List Key × Key × Node) := do
  let path ← key
  cut (do
    ((char '=').context (.char '.')).context (.char '=')
    blanks
    let v ← val
    blanks
    pure (path.dropLast, path.getLast?.getD default, v))

/-- An inline table whose values are read by `val`. -/
def inlineTableOf (val : Parser Node) : Parser Node := do
  let (t, span) ← withSpan (do
    char '{'
    let t ← cut ((sepBy (inlinePair val) (char ',') <* blanks).tryMap fun pairs =>
      (inlineOfPairs pairs).mapError Issue.message)
    ((cut (char '}')).context (.label "inline table")).context (.char '}')
    pure t)
  pure (.inline (t.withSpan (some span)))

/-- A value, with arrays and inline tables nested at most `room` deep inside it. -/
def value : Nat → Parser Node
  | 0 =>
    let tooDeep : Parser Node := abort Issue.recursionLimit.message
    valueWith tooDeep tooDeep
  | room + 1 => valueWith (arrayOf (value room)) (inlineTableOf (value room))

/-! ## Lines -/

/-- A key/value line: the dotted path, the key and the value. -/
def pairLine : Parser (List Key × Key × Node) := do
  let path ← key
  cut (do
    ((char '=').context (.char '.')).context (.char '=')
    blanks
    let v ← value nestingLimit
    (lineRest.context (.char '\n')).context (.char '#')
    pure (path.dropLast, path.getLast?.getD default, v))

/-- A header `[path]` or `[[path]]` with the rest of its line: its path and place. -/
def header (opening closing : String) : Parser (List Key × Span) := do
  let (path, span) ← withSpan (do
    literal opening
    let path ← cut key
    ((cut (literal closing)).context (.char '.')).context
      (if closing.length == 1 then .char ']' else .literal closing)
    pure path)
  ((cut lineRest).context (.char '\n')).context (.char '#')
  pure (path, span)

/-- A header line, applied to the document being assembled. -/
def headerLine (b : Builder) : Parser Builder :=
  (do
    match ← peek2 with
    | some ('[', '[') =>
      (header "[[" "]]").tryMap fun (path, span) => (b.openArrayTable path span).mapError Issue.message
    | some _ =>
      (header "[" "]").tryMap fun (path, span) => (b.openTable path span).mapError Issue.message
    | none => fail).context (.label "table header")

/-- The lines of a text, after a byte-order mark and blanks, applied to a new document. -/
def document : Parser Builder := fun c =>
  let c := if c.peek == some '\uFEFF' then c.advance else c
  match blanks c with
  | .error f => .error f
  | .ok ((), c) => go (c.rest.length + 1) {} c
where
  /-- The remaining lines, at most `fuel` of them. -/
  go : Nat → Builder → Cursor → Except Failure (Builder × Cursor)
    | 0, b, c => .ok (b, c)
    | fuel + 1, b, c =>
      let step : Option (Parser Builder) := match c.peek with
        | none => none
        | some '#' => some (cut (comment *> lineEnd) *> pure b)
        | some '[' => some (cut (headerLine b))
        | some '\n' | some '\r' => some (newline *> pure b)
        | some _ => some (cut (pairLine.tryMap fun (path, k, v) =>
            (b.addPair path k v).mapError Issue.message))
      match step with
      | none => .ok (b, c)
      | some p =>
        match (p <* blanks) c with
        | .ok (b', c') => if c'.pos == c.pos then .ok (b', c') else go fuel b' c'
        | .error f => if f.committed then .error f else (eof c).map fun _ => (b, c)

/-- Reads a TOML text into its root table. -/
def parse (text : String) : Except Error Table :=
  match document (Cursor.start text) with
  | .error f => .error (Error.ofFailure text f)
  | .ok (b, _) =>
    match b.finish with
    | .ok b => .ok b.root
    | .error i => .error { message := i.message }

end LoadScenario.Toml
