import LoadScenario.Toml.Parser

/-!
# Reporting errors in a TOML text

An error in a TOML text is its message and, when known, the stretch of text it
concerns. It is shown as the line and column where the stretch starts, the
line itself, and carets under the stretch (at least one, and none past the
line's end), then the message:

    TOML parse error at line 2, column 8
      |
    2 | type = "burst"
      |        ^^^^^^^
    unknown variant `burst`, expected `at_once` or `ramp`

Lines and columns count from one; a column counts characters.
-/

namespace LoadScenario.Toml

/-- An error in a TOML text. -/
structure Error where
  message : String
  span : Option Span := none
  deriving Inhabited

/-- The error of a failed reading of `text`: at the character where the
reading stopped, or at the end of the text. -/
def Error.ofFailure (text : String) (f : Failure) : Error :=
  { message := f.message,
    span := some (if f.pos == text.utf8ByteSize then ⟨f.pos, f.pos⟩ else ⟨f.pos, f.pos + 1⟩) }

/-- The line and column, both from zero, of byte offset `index` in `text`. An
offset at or past the end counts from the last byte. The column counts
characters, or bytes when the offset is inside a character. -/
def locate (text : String) (index : Nat) : Nat × Nat :=
  let bytes := text.toUTF8
  if bytes.size == 0 then (0, index)
  else
    let safe := min index (bytes.size - 1)
    let before := (bytes.extract 0 safe).toList
    let lineStart := match (before.zipIdx.filter (·.1 == 10)).getLast? with
      | some (_, i) => i + 1
      | none => 0
    let line := ((bytes.extract 0 lineStart).toList.filter (· == 10)).length
    let column := match String.fromUTF8? (bytes.extract lineStart (safe + 1)) with
      | some s => s.length - 1
      | none => safe - lineStart
    (line, column + (index - safe))

/-- `n` spaces. -/
def spaces (n : Nat) : String := String.ofList (List.replicate n ' ')

/-- The error as shown for `text`. -/
def Error.render (e : Error) (text : String) : String :=
  match e.span with
  | none => e.message ++ "\n"
  | some span =>
    let (line, column) := locate text span.start
    let number := toString (line + 1)
    let gutter := number.length
    let content := (text.splitOn "\n").getD line ""
    let highlight := min (span.stop - span.start) (content.utf8ByteSize - column)
    "TOML parse error at line " ++ number ++ ", column " ++ toString (column + 1) ++ "\n" ++
      spaces (gutter + 1) ++ "|\n" ++
      number ++ " | " ++ content ++ "\n" ++
      spaces (gutter + 1) ++ "|" ++ spaces (column + 1) ++ "^" ++
      String.ofList (List.replicate (highlight - 1) '^') ++ "\n" ++
      e.message ++ "\n"

end LoadScenario.Toml
