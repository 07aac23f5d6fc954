import LoadScenario.Session
import LoadScenario.Json.Convert
import LoadScenario.Text.Word

/-!
# Templates

A placeholder is `#{name}`, with blanks allowed inside the braces, optionally
followed in the braces by `.exists()`, `.isUndefined()` or `.size()`. A name
starts with an ASCII letter or `_` and goes on with word characters and `-`.

A template that is exactly one placeholder stands for the attribute's value
itself, so its type is kept. Otherwise each placeholder is replaced by the text
of its value (a string as it is, anything else as JSON) and the template stands
for the resulting text. A `#{` that starts no placeholder makes the template
malformed, and so does a `#{` that a replacement brought in.
-/

namespace LoadScenario

/-- What a placeholder asks of its attribute. -/
inductive Query where
  | value
  | exists
  | isUndefined
  | size
  deriving DecidableEq, Repr

/-- A placeholder: the attribute's name and the query on it. -/
structure Placeholder where
  name : String
  query : Query
  deriving DecidableEq, Repr

/-- A piece of a template: plain text or a placeholder. -/
inductive Piece where
  | text (s : String)
  | placeholder (p : Placeholder)
  deriving DecidableEq, Repr

namespace Placeholder

/-- Whether a character may continue a name. -/
def isNameChar (c : Char) : Bool := Text.isWordChar c || c = '-'

/-- Whether a character may start a name. -/
def isNameStart (c : Char) : Bool := (c.isAlpha && c.toNat < 128) || c = '_'

/-- The query written after a name, and the characters after it. -/
def readQuery (cs : List Char) : Option (Query × List Char) :=
  let suffixes : List (String × Query) :=
    [(".exists()", .exists), (".isUndefined()", .isUndefined), (".size()", .size)]
  suffixes.findSome? fun (w, q) =>
    if w.toList.isPrefixOf cs then some (q, cs.drop w.length) else none

/-- Blanks, then the closing brace; the characters after it. -/
def readClose (cs : List Char) : Option (List Char) :=
  match cs.dropWhile Text.isBlank with
  | '}' :: r => some r
  | _ => none

/-- A placeholder at the very start of the characters, and the characters after it. -/
def readAt (cs : List Char) : Option (Placeholder × List Char) :=
  match cs with
  | '#' :: '{' :: r =>
    match r.dropWhile Text.isBlank with
    | c :: r' =>
      if isNameStart c then
        let tail := r'.takeWhile isNameChar
        let name := String.ofList (c :: tail)
        let after := r'.drop tail.length
        let withQuery := (readQuery after).bind fun (q, rest) =>
          (readClose rest).map fun rest' => (⟨name, q⟩, rest')
        withQuery.orElse fun _ => (readClose after).map fun rest => (⟨name, .value⟩, rest)
      else none
    | [] => none
  | _ => none

end Placeholder

/-- Splits a text into plain pieces and placeholders, taking the leftmost
placeholder each time and going on after it. Plain pieces are kept whole. -/
def splitPieces (cs : List Char) : List Piece :=
  go cs.length cs []
where
  /-- Splits with `fuel` rounds left; `plain` holds the current plain text reversed. -/
  go : Nat → List Char → List Char → List Piece
    | 0, cs, plain => flush (plain.reverse ++ cs) []
    | _, [], plain => flush plain.reverse []
    | fuel + 1, c :: r, plain =>
      match Placeholder.readAt (c :: r) with
      | some (p, rest) => flush plain.reverse [.placeholder p] ++ go fuel rest []
      | none => go fuel r (c :: plain)
  /-- The plain text, if any, before the pieces. -/
  flush (plain : List Char) (after : List Piece) : List Piece :=
    if plain.isEmpty then after else .text (String.ofList plain) :: after

/-- Whether `sub` occurs in `s`. -/
def containsText (s sub : String) : Bool :=
  let cs := sub.toList
  go s.toList cs (s.length + 1)
where
  /-- Looks at each suffix, with `fuel` suffixes left. -/
  go : List Char → List Char → Nat → Bool
    | _, _, 0 => false
    | [], pat, _ => pat.isEmpty
    | c :: r, pat, fuel + 1 => pat.isPrefixOf (c :: r) || go r pat fuel

namespace Placeholder

/-- The value a placeholder stands for in a session. -/
def resolve (s : Session) (p : Placeholder) : Except EvalError Value :=
  match p.query with
  | .exists => .ok (.bool (s.contains p.name))
  | .isUndefined => .ok (.bool !(s.contains p.name))
  | .size =>
    match s.get? p.name with
    | some (.array items) => .ok (Value.ofNat items.length)
    | some (.object fields) => .ok (Value.ofNat fields.length)
    | some (.string t) => .ok (Value.ofNat t.length)
    | some other => mismatch "collection" other
    | none => .error (.missingAttribute p.name)
  | .value =>
    match s.get? p.name with
    | some v => .ok v
    | none => .error (.missingAttribute p.name)

end Placeholder

/-- The text of a value inside a template: a string as it is, anything else as JSON. -/
def Value.templateText : Value → String
  | .string s => s
  | other => other.render

/-- Renders pieces in order; the first placeholder that fails decides the error. -/
def renderPieces (s : Session) : List Piece → Except EvalError String
  | [] => .ok ""
  | .text t :: ps => (t ++ ·) <$> renderPieces s ps
  | .placeholder p :: ps => do
    let v ← p.resolve s
    let rest ← renderPieces s ps
    pure (v.templateText ++ rest)

/-- The value of a template in a session. -/
def template (s : Session) (expr : String) : Except EvalError Value :=
  let pieces := splitPieces expr.toList
  let hasPlaceholder := pieces.any fun | .placeholder _ => true | .text _ => false
  if containsText expr "#\x7b" && !hasPlaceholder then
    .error (.malformed expr "unterminated or invalid placeholder")
  else
    match pieces with
    | [.placeholder p] => p.resolve s
    | _ => do
      let rendered ← renderPieces s pieces
      if containsText rendered "#\x7b" then .error (.malformed expr "invalid placeholder")
      else pure (.string rendered)

end LoadScenario
