import LoadScenario.Feeder.Basic
import LoadScenario.Feeder.Csv
import LoadScenario.Files
import LoadScenario.Json.Read
import LoadScenario.Json.Write

/-!
# Loading feeders

Feeders from JSON text (an array of objects), from CSV text (the header row
names the attributes, every field is a string, a later column of the same
name wins), and from files, which are named after the file's stem: its name
without the last extension, a name starting with its only dot kept whole.
-/

namespace LoadScenario

namespace Feeder

/-- A feeder from JSON text holding an array of objects. -/
def ofJson (name text : String) : Except FeederError Feeder := do
  let values ← match Value.parseList text with
    | .ok vs => pure vs
    | .error e => throw (.load e.message)
  let records ← (values.zipIdx).mapM fun (v, i) => match v with
    | .object fs => pure fs
    | other => throw (.load ("record " ++ toString i ++ " is not an object: " ++ other.render))
  new name records

/-- A feeder from CSV text. -/
def ofCsv (name text : String) : Except FeederError Feeder :=
  match Csv.table text with
  | .error r => .error (.load (name ++ ": " ++ r.message))
  | .ok (header, rows) =>
    new name (rows.map fun fields => Fields.ofList ((header.zip fields).map fun (k, v) => (k, .string v)))

end Feeder

/-- The stem of a path's file name: the name without its last extension; a
name whose only dot starts it is its own stem; no file name gives `none`. -/
def fileStem? (path : String) : Option String :=
  let file := ((path.splitOn "/").getLast?).getD ""
  if file.isEmpty || file = "." || file = ".." then none
  else
    match (file.splitOn ".").reverse with
    | [_] => some file
    | _ :: before =>
      let stem := ".".intercalate before.reverse
      if stem.isEmpty then some file else some stem
    | [] => some file

/-- A file's feeder name: its stem, or `feeder`. -/
def fileFeederName (path : String) : String := (fileStem? path).getD "feeder"

/-- The formats a feeder file can have. -/
inductive FileFormat where
  | json
  | csv
  deriving DecidableEq, Repr

/-- A feeder from a file's path and what reading it gave: its text, or why it
could not be read. A failure is reported after the path, except that a CSV
file that opened but could not be read is reported after its feeder name, as
its malformed records are. -/
def Feeder.ofFile (format : FileFormat) (path : String) (contents : Except FileFailure String) :
    Except FeederError Feeder :=
  match contents, format with
  | .error (.reading why), .csv => .error (.load (fileFeederName path ++ ": " ++ why))
  | .error e, _ => .error (.load (path ++ ": " ++ e.reason))
  | .ok text, .json => ofJson (fileFeederName path) text
  | .ok text, .csv => ofCsv (fileFeederName path) text

end LoadScenario
