/-!
The log of the program, which goes to a file because the terminal belongs to the board.

* `LogFile.filter`: what is logged.
* `FileTree.openForAppending`: whether a file can be opened to write at its end, and why not.
-/

namespace MarketBoard

namespace LogFile

/-- What is logged: everything from the level of information on, and with `verbose` also the details of
the program itself. -/
def filter (verbose : Bool) : String := if verbose then "tickboard=debug,info" else "info"

end LogFile

/-- What there is in a place. -/
inductive FileKind where
  | directory
  | file
deriving DecidableEq, Repr

/-- The files that a program finds. A place is given by the names on the way from the root. -/
structure FileTree where
  /-- What there is in a place. -/
  kind? : List String → Option FileKind
  /-- Where paths begin that do not begin at the root. -/
  workingDirectory : List String := []

/-- Why a file cannot be opened. -/
inductive OpenError where
  | nulInPath
  | notFound
  | nameTooLong
  | notDirectory
  | isDirectory
deriving DecidableEq, Repr

/-- The system's words for a cause. -/
def OpenError.message : OpenError → String
  | nulInPath => "file name contained an unexpected NUL byte"
  | notFound => "No such file or directory (os error 2)"
  | nameTooLong => "File name too long (os error 36)"
  | notDirectory => "Not a directory (os error 20)"
  | isDirectory => "Is a directory (os error 21)"

namespace FileTree

/-- The longest name, in bytes. -/
def longestName : Nat := 255

/-- The longest path, in bytes. -/
def longestPath : Nat := 4095

/-- The names in a path; slashes part them. -/
def names (path : String) : List String := (path.splitOn "/").filter (!·.isEmpty)

/-- Where a path begins. -/
def start (t : FileTree) (path : String) : List String :=
  if path.startsWith "/" then [] else t.workingDirectory

/-- Goes from one directory to another: to a directory in it, to itself by one dot, or to the one that
holds it by two. -/
def enter (t : FileTree) (place : List String) (name : String) : Except OpenError (List String) :=
  if name = "." then .ok place
  else if name = ".." then .ok place.dropLast
  else if longestName < name.utf8ByteSize then .error .nameTooLong
  else
    match t.kind? (place ++ [name]) with
    | some .directory => .ok (place ++ [name])
    | some .file => .error .notDirectory
    | none => .error .notFound

/-- Opens the file of the given name in a directory; one that is not there yet is made. -/
def openIn (t : FileTree) (place : List String) (name : String) : Except OpenError Unit :=
  if name = "." || name = ".." then .error .isDirectory
  else if longestName < name.utf8ByteSize then .error .nameTooLong
  else if t.kind? (place ++ [name]) = some .directory then .error .isDirectory
  else .ok ()

/-- Opens a file to write at its end: enters one directory after another, and opens the file in the
last. A path that ends in a slash is one of a directory, whether it is there or not. -/
def openForAppending (t : FileTree) (path : String) : Except OpenError Unit :=
  if path.contains '\x00' then .error .nulInPath
  else if path.isEmpty then .error .notFound
  else if longestPath < path.utf8ByteSize then .error .nameTooLong
  else
    match (names path).getLast? with
    | none => .error .isDirectory
    | some name =>
      match (names path).dropLast.foldlM t.enter (t.start path) with
      | .error e => .error e
      | .ok place => if path.endsWith "/" then .error .isDirectory else t.openIn place name

end FileTree

end MarketBoard
