import LoadScenario.Decode.Datum

/-!
# Parsers with committed failures and reported expectations

A `Parser` reads a prefix of a text and returns the rest. Positions are byte
offsets into the text, so that they can be turned into lines and columns of the
text later.

A failure says where the reading stopped, and is either *soft*, so that an
enclosing choice may try its next alternative, or *committed* (`cut`), so that
it ends the reading. On its way out a failure collects what the enclosing
parsers name (`context`): a label for the construct being read and the tokens
that would have been accepted. Its text is `invalid <label>` for the innermost
label, then `expected <tokens>` for all named tokens, then the cause, one per
line.

Choices and repetitions follow one rule: an alternative that fails softly is
undone before the next is tried, and when every alternative fails, the
failure of the last one stands, at the place where it stopped.
-/

namespace LoadScenario.Toml

/-- The unread rest of a text and the byte offset where it starts. -/
structure Cursor where
  rest : List Char
  pos : Nat
  deriving Inhabited

namespace Cursor

/-- A cursor at the start of a text. -/
def start (s : String) : Cursor := ⟨s.toList, 0⟩

/-- The next character, if any. -/
def peek (c : Cursor) : Option Char := c.rest.head?

/-- The cursor after the next character. -/
def advance (c : Cursor) : Cursor :=
  match c.rest with
  | [] => c
  | ch :: rest => ⟨rest, c.pos + ch.utf8Size⟩

end Cursor

/-- What an enclosing parser names on a failure: the construct being read, a
character, a literal text, or a description of the tokens that were expected. -/
inductive Expect where
  | label (what : String)
  | char (c : Char)
  | literal (s : String)
  | description (s : String)
  deriving Inhabited

/-- The text of an expected token. -/
def Expect.text : Expect → String
  | .label s => s
  | .char '\n' => "newline"
  | .char '`' => "'`'"
  | .char c => "`" ++ c.toString ++ "`"
  | .literal s => "`" ++ s ++ "`"
  | .description s => s

/-- A failed reading: where it stopped, whether it is committed, what the
enclosing parsers named (innermost first), and its cause. -/
structure Failure where
  pos : Nat
  committed : Bool := false
  context : List Expect := []
  cause : Option String := none
  deriving Inhabited

/-- The text of a failure. -/
def Failure.message (f : Failure) : String :=
  let label := f.context.findSome? fun | .label s => some s | _ => none
  let expected := f.context.filterMap fun | .label _ => none | e => some e.text
  let lines := (label.map ("invalid " ++ ·)).toList ++
    (if expected.isEmpty then [] else ["expected " ++ ", ".intercalate expected]) ++
    f.cause.toList
  "\n".intercalate lines

/-- A parser of values of `α`. -/
abbrev Parser (α : Type) := StateT Cursor (Except Failure) α

namespace Parser

variable {α β : Type}

/-- Fails softly at the current place. -/
def fail : Parser α := fun c => .error { pos := c.pos }

/-- Fails, committed, at the current place for `cause`. -/
def abort (cause : String) : Parser α :=
  fun c => .error { pos := c.pos, committed := true, cause := some cause }

/-- Fails, committed, at byte offset `pos` for `cause`. -/
def abortAt (pos : Nat) (cause : String) : Parser α :=
  fun _ => .error { pos, committed := true, cause := some cause }

/-- The current place. -/
def position : Parser Nat := fun c => .ok (c.pos, c)

/-- The next character without reading it. -/
def peek : Parser (Option Char) := fun c => .ok (c.peek, c)

/-- The next two characters, when there are two, without reading them. -/
def peek2 : Parser (Option (Char × Char)) := fun c =>
  match c.rest with
  | a :: b :: _ => .ok (some (a, b), c)
  | _ => .ok (none, c)

/-- Reads any one character. -/
def anyChar : Parser Char := fun c =>
  match c.peek with
  | some ch => .ok (ch, c.advance)
  | none => .error { pos := c.pos }

/-- Reads one character that satisfies `p`. -/
def satisfy (p : Char → Bool) : Parser Char := fun c =>
  match c.peek with
  | some ch => if p ch then .ok (ch, c.advance) else .error { pos := c.pos }
  | none => .error { pos := c.pos }

/-- Reads the character `ch`. -/
def char (ch : Char) : Parser Unit := (fun _ => ()) <$> satisfy (· == ch)

/-- Reads the literal text `s`, or fails without reading anything. -/
def literal (s : String) : Parser Unit := fun c =>
  if s.toList.isPrefixOf c.rest then
    .ok ((), s.toList.foldl (fun c _ => c.advance) c)
  else .error { pos := c.pos }

/-- Succeeds only at the end of the text. -/
def eof : Parser Unit := fun c =>
  if c.rest.isEmpty then .ok ((), c) else .error { pos := c.pos }

/-- Reads the longest run of characters that satisfy `p`, possibly empty. -/
def takeWhile (p : Char → Bool) : Parser String := fun c =>
  let run := c.rest.takeWhile p
  .ok (String.ofList run, run.foldl (fun c _ => c.advance) c)

/-- Reads a non-empty run of characters that satisfy `p`. -/
def takeWhile1 (p : Char → Bool) : Parser String := fun c =>
  match c.peek with
  | some ch => if p ch then takeWhile p c else .error { pos := c.pos }
  | none => .error { pos := c.pos }

/-- Reads between `lo` and `hi` characters that satisfy `p`, as many as there are. -/
def takeBetween (lo hi : Nat) (p : Char → Bool) : Parser String := fun c =>
  let run := (c.rest.takeWhile p).take hi
  if run.length < lo then .error { pos := c.pos }
  else .ok (String.ofList run, run.foldl (fun c _ => c.advance) c)

/-- `p`, or nothing when it fails softly. -/
def opt (p : Parser α) : Parser (Option α) := fun c =>
  match p c with
  | .ok (a, c') => .ok (some a, c')
  | .error f => if f.committed then .error f else .ok (none, c)

/-- `p` then `q`, or `q` alone when `p` fails softly. -/
def orElse (p q : Parser α) : Parser α := fun c =>
  match p c with
  | .ok r => .ok r
  | .error f => if f.committed then .error f else q c

/-- The first alternative that does not fail softly; when all do, the failure
of the last one. -/
def alt : List (Parser α) → Parser α
  | [] => fail
  | [p] => p
  | p :: ps => orElse p (alt ps)

/-- Makes every failure of `p` committed. -/
def cut (p : Parser α) : Parser α := fun c =>
  (p c).mapError fun f => { f with committed := true }

/-- Adds `e` to what a failure of `p` names. -/
def context (p : Parser α) (e : Expect) : Parser α := fun c =>
  (p c).mapError fun f => { f with context := f.context ++ [e] }

/-- `p` without reading: the result, or the failure, from where the reading started. -/
def lookahead (p : Parser α) : Parser α := fun c =>
  match p c with
  | .ok (a, _) => .ok (a, c)
  | .error f => .error { f with pos := c.pos }

/-- The result of `p` with the stretch of text it read. -/
def withSpan (p : Parser α) : Parser (α × Span) := fun c =>
  match p c with
  | .ok (a, c') => .ok ((a, ⟨c.pos, c'.pos⟩), c')
  | .error f => .error f

/-- The text that `p` read. -/
def recognize (p : Parser α) : Parser String := fun c =>
  match p c with
  | .ok (_, c') => .ok (String.ofList (c.rest.take (c.rest.length - c'.rest.length)), c')
  | .error f => .error f

/-- `p` with its result checked by `f`: a refusal is a soft failure for its
cause, at the place where `p` started. -/
def tryMap (p : Parser α) (f : α → Except String β) : Parser β := fun c =>
  match p c with
  | .ok (a, c') =>
    match f a with
    | .ok b => .ok (b, c')
    | .error m => .error { pos := c.pos, cause := some m }
  | .error e => .error e

/-- `p` with its result checked by `f`, where a refusal ends the reading: a
committed failure for its cause, if it has one, at the place where `p`
started. A failure of `p` itself stays as it is. -/
def commitMap (p : Parser α) (f : α → Except (Option String) β) : Parser β := fun c =>
  match p c with
  | .ok (a, c') =>
    match f a with
    | .ok b => .ok (b, c')
    | .error m => .error { pos := c.pos, committed := true, cause := m }
  | .error e => .error e

/-- `p` with its result checked by `ok`: a refusal is a soft failure at the
place where `p` started. -/
def verify (p : Parser α) (ok : α → Bool) : Parser α := fun c =>
  match p c with
  | .ok (a, c') => if ok a then .ok (a, c') else .error { pos := c.pos }
  | .error e => .error e

/-- Repeats `p` while it succeeds and reads something; a soft failure ends the
repetition where that attempt started. -/
def many (p : Parser α) : Parser (List α) := fun c => go (c.rest.length + 1) c []
where
  /-- At most `fuel` more attempts, the results so far reversed. -/
  go : Nat → Cursor → List α → Except Failure (List α × Cursor)
    | 0, c, acc => .ok (acc.reverse, c)
    | fuel + 1, c, acc =>
      match p c with
      | .ok (a, c') => if c'.pos == c.pos then .ok ((a :: acc).reverse, c') else go fuel c' (a :: acc)
      | .error f => if f.committed then .error f else .ok (acc.reverse, c)

/-- `p` repeated at least once. -/
def many1 (p : Parser α) : Parser (List α) := do
  let a ← p
  let rest ← many p
  pure (a :: rest)

/-- Items separated by `sep`: a separator whose item fails softly is left unread. -/
def sepBy (p : Parser α) (sep : Parser Unit) : Parser (List α) := do
  match ← opt p with
  | none => pure []
  | some a => (a :: ·) <$> many (sep *> p)

/-- At least one item, separated by `sep`. -/
def sepBy1 (p : Parser α) (sep : Parser Unit) : Parser (List α) := do
  let a ← p
  (a :: ·) <$> many (sep *> p)

end Parser

end LoadScenario.Toml
