import LoadScenario.Cli.Execute
import LoadScenario.Files

/-!
# The `volley` program

Reads the command line, reads the configuration file it names, executes it
with `Cli.execute`, prints what that printed and exits with its code. A run is
named by a fresh identifier: 26 characters of Crockford's base 32 encoding a
millisecond clock reading and 80 random bits.
-/

namespace LoadScenario.Cli

/-- The alphabet of Crockford's base 32. -/
def crockford : List Char := "0123456789ABCDEFGHJKMNPQRSTVWXYZ".toList

/-- The 26-character base-32 text of a number below `2^130`, most significant digit first. -/
def base32Id (n : Nat) : String :=
  String.ofList ((List.range 26).reverse.map fun i => crockford.getD (n / Nat.pow 32 i % 32) '0')

/-- The text of an operating-system error code this program reports by name. -/
def osErrorText : UInt32 → Option String
  | 2 => some "No such file or directory"
  | 13 => some "Permission denied"
  | 20 => some "Not a directory"
  | 21 => some "Is a directory"
  | 36 => some "File name too long"
  | _ => none

/-- Why a file could not be read, in the operating system's words. -/
def readFailure (e : IO.Error) : String :=
  let coded (code : UInt32) : String :=
    match osErrorText code with
    | some t => t ++ " (os error " ++ toString code ++ ")"
    | none => toString e
  match e with
  | .noFileOrDirectory _ _ _ => coded 2
  | .permissionDenied _ code _ | .inappropriateType _ code _ | .invalidArgument _ code _
  | .otherError code _ => coded code
  | _ => toString e

/-- Reads a file, or says why it could not be read. -/
def readText (path : String) : IO (Except String String) := do
  if path.toList.contains (Char.ofNat 0) then return .error FileFailure.zeroCharacter
  try
    pure (.ok (← IO.FS.readFile path))
  catch e =>
    pure (.error (readFailure e))

end LoadScenario.Cli

open LoadScenario.Cli in
/-- Runs the program on its command line. -/
def main (args : List String) : IO UInt32 := do
  let contents ← match configPath args with
    | some path => readText path
    | none => pure (.error "")
  let stamp ← IO.monoMsNow
  let noise ← IO.rand 0 (Nat.pow 2 80 - 1)
  let out := execute args (fun _ => contents) none (base32Id (stamp % Nat.pow 2 48 * Nat.pow 2 80 + noise))
  IO.print out.stdout
  IO.eprint out.stderr
  pure (UInt32.ofNat out.code)
