import LoadScenario.Text.Blank

/-!
# Comma-separated records

A CSV text is read one character at a time. Records end at a line feed, a
carriage return, or both in that order; empty lines are skipped. A field that
starts with a quote runs to the next lone quote, two quotes inside standing for
one and line breaks kept; characters after its closing quote join the field. A
quote inside an unquoted field is an ordinary character. An unterminated quoted
field ends with the text. A leading byte order mark is dropped.

Each record remembers where reading it began: the byte offset and line just
after the character that ended the previous record, so blank lines and the
second half of a carriage return and line feed pair before it are not
counted; the byte order mark counts as three bytes. Its index counts from the
header, which is record 0.
-/

namespace LoadScenario.Csv

/-- A record: its fields and where it starts. -/
structure Row where
  fields : List String
  index : Nat
  line : Nat
  byte : Nat
  deriving Repr, Inhabited

/-- Where the automaton is within a record. -/
inductive Mode where
  | startRecord
  | startField
  | inField
  | inQuoted
  | afterQuote
  deriving DecidableEq, Repr

/-- The automaton's state: mode, the field and record read so far (reversed),
the rows done (reversed), the position reached and where the record began. -/
structure Reader where
  mode : Mode := .startRecord
  field : List Char := []
  fields : List String := []
  rows : List Row := []
  line : Nat := 1
  byte : Nat := 0
  startLine : Nat := 1
  startByte : Nat := 0

namespace Reader

/-- Ends the field being read. -/
def endField (r : Reader) : Reader :=
  { r with field := [], fields := String.ofList r.field.reverse :: r.fields, mode := .startField }

/-- Ends the record being read; the next one starts after `r`'s position. -/
def endRecord (r : Reader) : Reader :=
  let r := r.endField
  { r with
    rows := ⟨r.fields.reverse, r.rows.length, r.startLine, r.startByte⟩ :: r.rows
    fields := [], mode := .startRecord }

/-- Moves the position past one character. -/
def advance (r : Reader) (c : Char) : Reader :=
  { r with byte := r.byte + c.utf8Size, line := if c = '\n' then r.line + 1 else r.line }

/-- Marks the current position as the start of the next record. -/
def markStart (r : Reader) : Reader := { r with startLine := r.line, startByte := r.byte }

/-- Whether a character ends a record. -/
def isBreak (c : Char) : Bool := c = '\n' || c = '\r'

/-- A delimiter or line break at a field boundary, if `c` is one. -/
def delimit (r : Reader) (c : Char) : Option Reader :=
  if c = ',' then some r.endField
  else if isBreak c then some r.endRecord.markStart
  else none

/-- Takes a character into the field. -/
def push (r : Reader) (c : Char) (m : Mode) : Reader := { r with field := c :: r.field, mode := m }

/-- Acts on one character, the position already past it. -/
def act (r : Reader) (c : Char) : Reader :=
  match r.mode with
  | .startRecord =>
    if isBreak c then r else atField r c
  | .startField => atField r c
  | .inField => (delimit r c).getD (r.push c .inField)
  | .inQuoted => if c = '"' then { r with mode := .afterQuote } else r.push c .inQuoted
  | .afterQuote =>
    if c = '"' then r.push c .inQuoted else (delimit r c).getD (r.push c .inField)
where
  /-- A character at the start of a field. -/
  atField (r : Reader) (c : Char) : Reader :=
    if c = '"' then { r with mode := .inQuoted } else (delimit r c).getD (r.push c .inField)

/-- Ends the text: a record under way is ended. -/
def finish (r : Reader) : List Row :=
  (if r.mode = .startRecord then r else r.endRecord).rows.reverse

end Reader

/-- Reads characters one at a time. -/
def feed (r : Reader) : List Char → Reader
  | [] => r
  | c :: cs => feed ((r.advance c).act c) cs

/-- The rows of a text, before trimming. -/
def rows (text : String) : List Row :=
  match text.toList with
  | '\uFEFF' :: rest => (feed { byte := 3, startByte := 3 } rest).finish
  | cs => (feed {} cs).finish

/-- A record that does not have as many fields as the header. -/
structure Ragged where
  row : Row
  expected : Nat
  deriving Repr

/-- The text of a ragged record. -/
def Ragged.message (r : Ragged) : String :=
  "CSV error: record " ++ toString r.row.index ++ " (line: " ++ toString r.row.line ++
    ", byte: " ++ toString r.row.byte ++ "): found record with " ++ toString r.row.fields.length ++
    " fields, but the previous record has " ++ toString r.expected ++ " fields"

/-- The header and the records, with every field trimmed, or the first record
whose length differs from the header's. -/
def table (text : String) : Except Ragged (List String × List (List String)) :=
  match rows text with
  | [] => .ok ([], [])
  | header :: body =>
    match body.find? (·.fields.length != header.fields.length) with
    | some bad => .error ⟨bad, header.fields.length⟩
    | none => .ok (header.fields.map Text.trim, body.map fun r => r.fields.map Text.trim)

end LoadScenario.Csv
