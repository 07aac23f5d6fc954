/-!
# Reading files

Reading a file fails in one of two ways: the path does not lead to a file
that opens, or what opened cannot be read (a directory opens, but reading it
fails). Those who report a failure may tell the two apart: `FileFailure`.

A request may hand the program files by name: they stand in a scratch
directory, which is the working directory, and every path that leaves it
leads nowhere known. `Scratch.read` finds what reading a path there gives,
with the operating system's reasons for failing:

* an empty path, or a name that nothing in its directory has, does not exist;
* a path of 4096 bytes or more, or a piece of one longer than 255 bytes, is
  too long, found when its piece is looked up;
* a piece after a file's name (even `.` or the empty piece after a trailing
  `/`) asks for a file inside a file, which is not a directory;
* a path with a zero character cannot be handed to the system at all;
* a directory opens, but reading it fails.

The pieces `.` and empty ones stay where they are and `..` goes one directory
up; above the scratch directory nothing is known.
-/

namespace LoadScenario

/-- Why a file could not be read, in the operating system's words. -/
inductive FileFailure where
  /-- The path does not lead to a file that opens. -/
  | opening (why : String)
  /-- What the path leads to opened, but reading it failed. -/
  | reading (why : String)
  deriving DecidableEq, Repr

namespace FileFailure

/-- The operating system's words for the failure. -/
def reason : FileFailure → String
  | .opening why | .reading why => why

/-- The reason for a path that leads nowhere. -/
def missing : String := "No such file or directory (os error 2)"

/-- The reason for a name that is too long. -/
def tooLong : String := "File name too long (os error 36)"

/-- The reason for a piece of a path after a file. -/
def notDirectory : String := "Not a directory (os error 20)"

/-- The reason reading a directory fails. -/
def directory : String := "Is a directory (os error 21)"

/-- The reason for a path holding a zero character. -/
def zeroCharacter : String := "file name contained an unexpected NUL byte"

end FileFailure

/-- Where a path leads: a directory of the scratch tree (by the pieces of its
path), a directory outside it, or a file with its text. -/
inductive Place where
  | within (pieces : List String)
  | outside
  | file (text : String)

/-- The directory one up from a directory. -/
def Place.up : Place → Place
  | .within (p :: ps) => .within (p :: ps).dropLast
  | _ => .outside

/-- The files of a scratch directory, each by its path and with its text. -/
structure Scratch where
  files : List (String × String) := []

namespace Scratch

/-- The pieces of a relative path that name something: without empty pieces and `.`. -/
def namedPieces (path : String) : List String :=
  (path.splitOn "/").filter fun p => p != "" && p != "."

/-- The text of the file at the given pieces, if there is one. -/
def fileAt? (s : Scratch) (pieces : List String) : Option String :=
  (s.files.find? fun f => namedPieces f.1 == pieces).map (·.2)

/-- Whether the given pieces lead to a directory holding some file. -/
def isDirectory (s : Scratch) (pieces : List String) : Bool :=
  s.files.any fun f =>
    let ps := namedPieces f.1
    pieces.length < ps.length && ps.take pieces.length == pieces

/-- Follows the pieces of a path from a place. -/
def follow (s : Scratch) : Place → List String → Except FileFailure Place
  | p, [] => .ok p
  | .file _, _ :: _ => .error (.opening FileFailure.notDirectory)
  | p, piece :: more =>
    if piece == "" || piece == "." then follow s p more
    else if piece == ".." then follow s p.up more
    else if 255 < piece.utf8ByteSize then .error (.opening FileFailure.tooLong)
    else
      match p with
      | .within ps =>
        let next := ps ++ [piece]
        match s.fileAt? next with
        | some text => follow s (.file text) more
        | none =>
          if s.isDirectory next then follow s (.within next) more
          else .error (.opening FileFailure.missing)
      | _ => .error (.opening FileFailure.missing)

/-- What reading a path in the scratch directory gives. -/
def read (s : Scratch) (path : String) : Except FileFailure String :=
  if path.isEmpty then .error (.opening FileFailure.missing)
  else if path.toList.contains (Char.ofNat 0) then .error (.opening FileFailure.zeroCharacter)
  else if 4096 ≤ path.utf8ByteSize then .error (.opening FileFailure.tooLong)
  else
    let start : Place := if path.startsWith "/" then .outside else .within []
    match follow s start (path.splitOn "/") with
    | .ok (.file text) => .ok text
    | .ok _ => .error (.reading FileFailure.directory)
    | .error e => .error e

/-- What reading a path in the scratch directory gives, failures in words. -/
def readText (s : Scratch) (path : String) : Except String String :=
  (s.read path).mapError FileFailure.reason

end Scratch

end LoadScenario
