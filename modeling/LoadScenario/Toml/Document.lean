import LoadScenario.Decode.Datum

/-!
# TOML documents

A document is a table of keys and nodes. A node is a value (string, integer,
float, boolean, date-time, array or inline table), a table, or an array of
tables. Values and table headers keep the stretch of text they were read from,
so that a value of the wrong kind can be pointed at.

A document is assembled from its lines in order by a `Builder`: a key/value
line goes into the table of the last header (or the root), a dotted key going
through tables made on the way; a header starts a new table, and the table
before it is put in its place.

The rules that make a document well formed are those of TOML: no key is given
twice in one table, a table is defined by one header only, a dotted key does
not reach into a table defined by a header nor into a value, and a header does
not reopen a table made by dotted keys.
-/

namespace LoadScenario.Toml

/-- A key as written: its name, and the stretch of text that wrote it. -/
structure Key where
  name : String
  span : Span
  deriving Inhabited

mutual

/-- A node of a document. -/
inductive Node where
  | string (s : String) (span : Span)
  | integer (i : Int) (span : Span)
  | float (x : Float) (span : Span)
  | bool (b : Bool) (span : Span)
  | datetime (text : String) (span : Span)
  | array (items : List Node) (span : Span)
  | inline (t : Table)
  | table (t : Table)
  | tables (items : List Table) (span : Option Span)

/-- A table: its entries in order, whether it was only made on the way to
another (`implicit`), whether by a dotted key (`dotted`), and its place. -/
inductive Table where
  | mk (entries : List (Key × Node)) (implicit dotted : Bool) (span : Option Span)

end

instance : Inhabited Table := ⟨.mk [] false false none⟩

namespace Table

/-- The entries of a table, in order. -/
def entries : Table → List (Key × Node)
  | .mk es _ _ _ => es

/-- Whether the table was only made on the way to another. -/
def implicit : Table → Bool
  | .mk _ i _ _ => i

/-- Whether the table was made by a dotted key. -/
def dotted : Table → Bool
  | .mk _ _ d _ => d

/-- The place of the table: its header, or its braces. -/
def span : Table → Option Span
  | .mk _ _ _ s => s

/-- An empty table. -/
def empty (implicit dotted : Bool) (span : Option Span) : Table := .mk [] implicit dotted span

/-- The table with other entries. -/
def withEntries (t : Table) (es : List (Key × Node)) : Table := .mk es t.implicit t.dotted t.span

/-- The table at another place. -/
def withSpan (t : Table) (s : Option Span) : Table := .mk t.entries t.implicit t.dotted s

/-- The node under a key. -/
def find? (t : Table) (name : String) : Option Node :=
  (t.entries.find? (·.1.name == name)).map (·.2)

/-- The table with `node` under `key`: in place of the old entry, or last. -/
def set (t : Table) (key : Key) (node : Node) : Table :=
  if t.entries.any (·.1.name == key.name) then
    t.withEntries (t.entries.map fun e => if e.1.name == key.name then (e.1, node) else e)
  else t.withEntries (t.entries ++ [(key, node)])

/-- The table without the entry of a key. -/
def remove (t : Table) (name : String) : Table :=
  t.withEntries (t.entries.filter (·.1.name != name))

end Table

/-- The name of a value's kind in diagnostics. -/
def Node.kindName : Node → String
  | .string .. => "string"
  | .integer .. => "integer"
  | .float .. => "float"
  | .bool .. => "boolean"
  | .datetime .. => "datetime"
  | .array .. => "array"
  | .inline _ => "inline table"
  | .table _ => "table"
  | .tables .. => "array of tables"

/-- The place of a node, if it has one. -/
def Node.span? : Node → Option Span
  | .string _ s | .integer _ s | .float _ s | .bool _ s | .datetime _ s | .array _ s => some s
  | .inline t | .table t => t.span
  | .tables _ s => s

/-- Why lines do not make a well-formed document. -/
inductive Issue where
  | duplicateKey (key : String) (table : Option (List String))
  | extendWrongType (path : List String) (actual : String)
  | outOfRange
  | recursionLimit
  deriving Inhabited

/-- Whether a key can be written bare. -/
def isBareKeyChar (c : Char) : Bool := c.isAlphanum || c == '-' || c == '_'

/-- Whether a character is written as an escape in a quoted key: the control
characters and DEL. -/
def isEscapeCode (c : Char) : Bool := c.toNat < 0x20 || c.toNat == 0x7F

/-- The four upper-case hex digits of a number below `0x10000`. -/
def hex4 (n : Nat) : String :=
  let digits := Nat.toDigits 16 n |>.map Char.toUpper
  String.ofList (List.replicate (4 - digits.length) '0' ++ digits)

/-- A character inside a basic (double-quoted) string. -/
def basicChar (c : Char) : String :=
  if c == '"' then "\\\""
  else if c == '\\' then "\\\\"
  else if c.toNat == 8 then "\\b"
  else if c == '\t' then "\\t"
  else if c == '\n' then "\\n"
  else if c.toNat == 12 then "\\f"
  else if c == '\r' then "\\r"
  else if isEscapeCode c then "\\u" ++ hex4 c.toNat
  else c.toString

/-- A key as a diagnostic writes it: bare when it can be; else between double
quotes when nothing in it needs escaping; else between single quotes when it
holds no single quote and no control character; else between double quotes
with escapes. -/
def keyText (name : String) : String :=
  let codes := name.any isEscapeCode
  if !name.isEmpty && name.all isBareKeyChar then name
  else if !codes && !name.any (· == '\\') && !name.any (· == '"') then "\"" ++ name ++ "\""
  else if !codes && !name.any (· == '\'') then "'" ++ name ++ "'"
  else "\"" ++ String.join (name.toList.map basicChar) ++ "\""

/-- The text of an issue. -/
def Issue.message : Issue → String
  | .duplicateKey key none => "duplicate key `" ++ key ++ "`"
  | .duplicateKey key (some []) => "duplicate key `" ++ key ++ "` in document root"
  | .duplicateKey key (some path) =>
    "duplicate key `" ++ key ++ "` in table `" ++ ".".intercalate path ++ "`"
  | .extendWrongType path actual =>
    "dotted key `" ++ ".".intercalate path ++ "` attempted to extend non-table type (" ++
      actual ++ ")"
  | .outOfRange => "value is out of range"
  | .recursionLimit => "recursion limit exceeded"

/-- The names of keys. -/
def names (keys : List Key) : List String := keys.map (·.name)

/-- The issue of a header naming a table that is already defined. -/
def redefined (path : List Key) : Issue :=
  match path.getLast? with
  | some k => .duplicateKey (keyText k.name) (some (names path.dropLast))
  | none => .duplicateKey "" none

/-- Changes the table at `path` under `t` by `k`, making implicit tables on the
way (dotted ones when `dotted`) and going into the last table of an array of
tables. `seen` are the keys already walked, for diagnostics. -/
def Table.descend {β : Type} (dotted : Bool) (k : Table → Except Issue (Table × β)) :
    List Key → List Key → Table → Except Issue (Table × β)
  | _, [], t => k t
  | seen, key :: rest, t => do
    let here := seen ++ [key]
    match t.find? key.name with
    | none =>
      let (child, b) ← Table.descend dotted k here rest (Table.empty true dotted none)
      pure (t.set key (.table child), b)
    | some (.table child) =>
      if dotted && !child.implicit then throw (.duplicateKey key.name none)
      let (child', b) ← Table.descend dotted k here rest child
      pure (t.set key (.table child'), b)
    | some (.tables items span) =>
      match items.getLast? with
      | some last =>
        let (last', b) ← Table.descend dotted k here rest last
        pure (t.set key (.tables (items.dropLast ++ [last']) span), b)
      | none =>
        let (child, b) ← Table.descend dotted k here rest (Table.empty true dotted none)
        pure (t.set key (.tables [child] span), b)
    | some other => throw (.extendWrongType (names here) other.kindName)

/-- Changes the inline table at `path` under `t` by `k`, making dotted inline
tables on the way. -/
def Table.descendInline {β : Type} (k : Table → Except Issue (Table × β)) :
    List Key → List Key → Table → Except Issue (Table × β)
  | _, [], t => k t
  | seen, key :: rest, t => do
    let here := seen ++ [key]
    match t.find? key.name with
    | none =>
      let (child, b) ← Table.descendInline k here rest (Table.empty true true none)
      pure (t.set key (.inline child), b)
    | some (.inline child) =>
      if !child.implicit then throw (.duplicateKey key.name none)
      let (child', b) ← Table.descendInline k here rest child
      pure (t.set key (.inline child'), b)
    | some other => throw (.extendWrongType (names here) other.kindName)

/-- The inline table of key/value pairs, each with the dotted path before its key. -/
def inlineOfPairs (pairs : List (List Key × Key × Node)) : Except Issue Table :=
  pairs.foldlM (fun t (path, key, node) => do
    let (t', _) ← t.descendInline (fun inner => do
      if inner.dotted == path.isEmpty then throw (.duplicateKey key.name none)
      if (inner.find? key.name).isSome then throw (.duplicateKey key.name none)
      pure (inner.set key node, ())) [] path
    pure t') (Table.empty false false none)

/-- A document being assembled: the root as far as it is done, the table being
filled, its header's path, and whether it is an element of an array of tables. -/
structure Builder where
  root : Table := default
  current : Table := default
  path : List Key := []
  isArray : Bool := false
  deriving Inhabited

namespace Builder

/-- Adds a key/value line, with the dotted path before its key, to the table
being filled. The table's place grows to take in the value. -/
def addPair (b : Builder) (path : List Key) (key : Key) (node : Node) : Except Issue Builder := do
  let current := match b.current.span, node.span? with
    | some s, some v => b.current.withSpan (some ⟨s.start, v.stop⟩)
    | _, _ => b.current
  let (current', _) ← current.descend true (fun t => do
    if t.dotted == path.isEmpty then throw (.duplicateKey key.name none)
    if (t.find? key.name).isSome then throw (.duplicateKey key.name (some (names b.path)))
    pure (t.set key node, ())) [] path
  pure { b with current := current' }

/-- Puts the table being filled in its place. -/
def finish (b : Builder) : Except Issue Builder := do
  match b.path.getLast? with
  | none => pure { root := b.current }
  | some key =>
    let parent := b.path.dropLast
    let (root, _) ← b.root.descend false (fun t =>
      if b.isArray then
        match t.find? key.name with
        | none => pure (t.set key (.tables [b.current] b.current.span), ())
        | some (.tables items _) =>
          let items := items ++ [b.current]
          let span := match items.head?.bind Table.span, items.getLast?.bind Table.span with
            | some first, some last => some ⟨first.start, last.stop⟩
            | _, _ => none
          pure (t.set key (.tables items span), ())
        | some _ => throw (redefined b.path)
      else
        match t.find? key.name with
        | none => pure (t.set key (.table b.current), ())
        | some (.table old) =>
          if old.implicit then pure (t.set key (.table b.current), ())
          else throw (redefined b.path)
        | some _ => throw (redefined b.path)) [] parent
    pure { root }

/-- Starts the table of a header `[path]` read at `span`: a table made on the
way to another is taken up, any other node under the key is a second definition. -/
def openTable (b : Builder) (path : List Key) (span : Span) : Except Issue Builder := do
  let b ← b.finish
  match path.getLast? with
  | none => pure b
  | some key =>
    let (root, taken) ← b.root.descend false (fun t =>
      match t.find? key.name with
      | none => pure (t, none)
      | some (.table old) =>
        if old.implicit && !old.dotted then pure (t.remove key.name, some old)
        else throw (redefined path)
      | some _ => throw (redefined path)) [] path.dropLast
    let start := taken.getD default
    pure { root, current := .mk start.entries false false (some span), path }

/-- Starts a new element of the array of tables of a header `[[path]]` read at `span`. -/
def openArrayTable (b : Builder) (path : List Key) (span : Span) : Except Issue Builder := do
  let b ← b.finish
  match path.getLast? with
  | none => pure b
  | some key =>
    let (root, _) ← b.root.descend false (fun t =>
      match t.find? key.name with
      | none => pure (t.set key (.tables [] none), ())
      | some (.tables _ _) => pure (t, ())
      | some _ => throw (redefined path)) [] path.dropLast
    pure { root, current := Table.empty false false (some span), path, isArray := true }

end Builder

mutual

/-- The datum of a node, at its place. -/
def Node.toDatum : Node → Datum
  | .string s span => .located span (.str s)
  | .integer i span => .located span (.signed i)
  | .float x span => .located span (.float x)
  | .bool b span => .located span (.bool b)
  | .datetime t span => .located span (.map [("$__toml_private_datetime", .str t)])
  | .array items span => .located span (.seq (Node.listToDatum items))
  | .inline t => Table.toDatum t
  | .table t => Table.toDatum t
  | .tables items span =>
    let d := Datum.seq (Table.listToDatum items)
    match span with
    | some s => .located s d
    | none => d

/-- The data of the members of an array. -/
def Node.listToDatum : List Node → List Datum
  | [] => []
  | n :: ns => Node.toDatum n :: Node.listToDatum ns

/-- The datum of a table, at its place when it has one. -/
def Table.toDatum : Table → Datum
  | .mk entries _ _ span =>
    let d := Datum.map (Table.entriesToDatum entries)
    match span with
    | some s => .located s d
    | none => d

/-- The data of the tables of an array of tables. -/
def Table.listToDatum : List Table → List Datum
  | [] => []
  | t :: ts => Table.toDatum t :: Table.listToDatum ts

/-- The data of a table's entries; a node with no place of its own is placed at its key. -/
def Table.entriesToDatum : List (Key × Node) → List (String × Datum)
  | [] => []
  | (k, n) :: rest =>
    let d := Node.toDatum n
    let d := if d.span?.isSome then d else .located k.span d
    (k.name, d) :: Table.entriesToDatum rest

end

end LoadScenario.Toml
