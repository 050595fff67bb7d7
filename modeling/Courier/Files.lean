/-
# Files — a tree of directories and files, and why reading it fails

A path is walked from the root or from the working directory, one part at a time; only a
directory has anything inside it.  `Files.read` gives the text of a file, `makeDirectories` the
tree with a directory and those above it.
-/

namespace Courier

/-! ## Errors -/

/-- Why an operation on files fails. -/
inductive FileError where
  | notFound
  | exists
  | notADirectory
  | isADirectory
  | nameTooLong
  | nulInName
  | notUtf8
  deriving DecidableEq, Repr

/-- The wording of a failure. -/
def FileError.message : FileError → String
  | .notFound => "No such file or directory (os error 2)"
  | .exists => "File exists (os error 17)"
  | .notADirectory => "Not a directory (os error 20)"
  | .isADirectory => "Is a directory (os error 21)"
  | .nameTooLong => "File name too long (os error 36)"
  | .nulInName => "file name contained an unexpected NUL byte"
  | .notUtf8 => "stream did not contain valid UTF-8"

/-! ## Paths -/

/-- The parts of a path. -/
def pathParts (path : String) : List String :=
  ((path.toList.splitOn '/').map String.ofList).filter (· ≠ "")

/-- True when a path begins at the root. -/
def isAbsolute (path : String) : Bool := path.toList.head? = some '/'

/-- A path inside a directory; an absolute path stays as it is. -/
def joinPath (base path : String) : String :=
  if isAbsolute path then path
  else if base.toList = [] || base.toList.getLast? = some '/' then base ++ path
  else base ++ "/" ++ path

/-- Drops the slashes and the lone dots at the end of a reversed path, but not the root. -/
def dropTrailing : List Char → List Char
  | ['/'] => ['/']
  | '/' :: rest => dropTrailing rest
  | '.' :: '/' :: rest => dropTrailing ('/' :: rest)
  | cs => cs

/-- The path of the directory that a path names something in; none for the root and for nothing. -/
def parentPath? (path : String) : Option String :=
  match dropTrailing path.toList.reverse with
  | [] => none
  | ['/'] => none
  | cs => some (String.ofList (dropTrailing (cs.dropWhile (· ≠ '/'))).reverse)

/-! ## Trees -/

/-- What stands at a place. -/
inductive Node where
  | directory
  | file (bytes : ByteArray)

/-- What is known of the files: the working directory and what stands where. -/
structure Files where
  /-- The parts of the path of the working directory. -/
  here : List String
  nodes : List (List String × Node)

namespace Files

/-- What stands at a place; whatever lies above the working directory or above a node is a directory. -/
def at? (files : Files) (place : List String) : Option Node :=
  match files.nodes.lookup place with
  | some node => some node
  | none =>
    if place.isPrefixOf files.here || files.nodes.any (fun (p, _) => place.isPrefixOf p) then
      some .directory
    else none

/-- One step of a walk: into a directory, or back out of it. -/
def enter (files : Files) (place : List String) (part : String) : Except FileError (List String) :=
  match files.at? place with
  | none => .error .notFound
  | some (.file _) => .error .notADirectory
  | some .directory =>
    if part = "." then .ok place
    else if part = ".." then .ok place.dropLast
    else if 255 < part.utf8ByteSize then .error .nameTooLong
    else .ok (place ++ [part])

/-- The place that a path names, which need not hold anything. -/
def place (files : Files) (path : String) : Except FileError (List String) :=
  if path.toList.contains '\x00' then .error .nulInName
  else if path = "" then .error .notFound
  else if 4096 ≤ path.utf8ByteSize then .error .nameTooLong
  else
    let start := if isAbsolute path then [] else files.here
    let last := if path.toList.getLast? = some '/' then ["."] else []
    (pathParts path ++ last).foldlM files.enter start

/-- What stands where a path leads. -/
def find (files : Files) (path : String) : Except FileError Node := do
  match files.at? (← files.place path) with
  | some node => .ok node
  | none => .error .notFound

/-- True when a path leads to something. -/
def has (files : Files) (path : String) : Bool := (files.find path).toOption.isSome

/-- True when a path leads to a directory. -/
def isDirectory (files : Files) (path : String) : Bool :=
  match files.find path with
  | .ok .directory => true
  | _ => false

/-- The bytes of a file. -/
def readBytes (files : Files) (path : String) : Except FileError ByteArray := do
  match ← files.find path with
  | .file bytes => .ok bytes
  | .directory => .error .isADirectory

/-- The text of a file. -/
def read (files : Files) (path : String) : Except FileError String := do
  match String.fromUTF8? (← files.readBytes path) with
  | some s => .ok s
  | none => .error .notUtf8

/-- Makes sure that a directory stands at each place that a walk passes. -/
def makeFrom (files : Files) (place : List String) : List String → Except FileError Files
  | [] => .ok files
  | part :: parts => do
    let next ← files.enter place part
    match files.at? next with
    | some .directory => files.makeFrom next parts
    | some (.file _) => .error (if parts = [] then .exists else .notADirectory)
    | none => makeFrom { files with nodes := files.nodes ++ [(next, .directory)] } next parts

/-- The tree with a directory at a path and at all places above it. -/
def makeDirectories (files : Files) (path : String) : Except FileError Files :=
  if path.toList.contains '\x00' then .error .nulInName
  else files.makeFrom (if isAbsolute path then [] else files.here) (pathParts path)

end Files

end Courier
