/-
# File trees

A `FileTree` is the state of a file system as far as this program can tell: the files with their
bytes and the directories, each at its location, the names from the root down. Paths are looked up
name by name from the root or from the working directory; every name but the last must be that of
a directory.

Operations that change the tree and can fail midway give the tree they leave behind as well. A file
is written in two steps: it is emptied or made, and then it takes the content, as far as the disk has
room for it (`Room`). Directories take no room.

Key definitions: `FileTree`, `FileError`, `Room`, `FileTree.find`, `FileTree.bytesAt`, `FileTree.write`,
`FileTree.createDirectory`, `FileTree.createDirectories`, `FileTree.createParents`,
`FileTree.directoryNames`.
-/
import MangaPress.Files.Path
import MangaPress.Text.Utf8

namespace MangaPress

/-- Why an operation on files fails. -/
inductive FileError where
  | notFound
  | exists
  | notDirectory
  | isDirectory
  | nameTooLong
  | nulInName
  | notText
  | noSpace
deriving Repr, DecidableEq

/-- The wording of the error. -/
def FileError.message : FileError → Text
  | notFound => "No such file or directory (os error 2)"
  | .exists => "File exists (os error 17)"
  | notDirectory => "Not a directory (os error 20)"
  | isDirectory => "Is a directory (os error 21)"
  | nameTooLong => "File name too long (os error 36)"
  | nulInName => "file name contained an unexpected NUL byte"
  | notText => "stream did not contain valid UTF-8"
  | noSpace => "No space left on device (os error 28)"

/-- The room on the disk at the moment when a file is written. -/
inductive Room where
  /-- There is room for every content. -/
  | ample
  /-- There is room for so many bytes. -/
  | bytes (n : Nat)
deriving Repr, DecidableEq

namespace Room

instance : Inhabited Room := ⟨ample⟩

/-- The beginning of a content that there is room for. -/
def part (content : Bytes) : Room → Bytes
  | ample => content
  | bytes n => content.take n

/-- Whether there is room for all of a content. -/
def holds (content : Bytes) : Room → Bool
  | ample => true
  | bytes n => decide (content.length ≤ n)

end Room

/-- What stands at a location. -/
inductive Node where
  | file (content : Bytes)
  | directory
deriving Repr, DecidableEq, Inhabited

/-- The names that lead from the root to a file or directory. -/
abbrev Location := List Text

/-- Files and directories by location; the root is a directory without being listed. -/
structure FileTree where
  entries : List (Location × Node) := []
  workingDirectory : Location := []
deriving Repr, Inhabited

namespace FileTree

/-- What stands at the location. -/
def node? (t : FileTree) (location : Location) : Option Node :=
  if location.isEmpty then some .directory else t.entries.lookup location

/-- Puts a file or directory at the location. -/
def put (t : FileTree) (location : Location) (n : Node) : FileTree :=
  { t with entries := (location, n) :: t.entries.filter fun entry => entry.1 != location }

/-- The longest name in bytes. -/
def maxNameLength : Nat := 255

/-- The longest path in bytes. -/
def maxPathLength : Nat := 4095

/-- What a path leads to. -/
inductive Found where
  | node (location : Location) (n : Node)
  /-- A name that is not there, in a directory that is. -/
  | free (location : Location)
deriving Repr, DecidableEq

/-- Follows names from a location. -/
def follow (t : FileTree) (start : Location) : List Text → Except FileError Found
  | [] =>
    match t.node? start with
    | some n => .ok (.node start n)
    | none => .error .notFound
  | name :: rest =>
    match t.node? start with
    | none => .error .notFound
    | some (.file _) => .error .notDirectory
    | some .directory =>
      if name = ['.', '.'] then follow t start.dropLast rest
      else if maxNameLength < Text.utf8Length name then .error .nameTooLong
      else if rest.isEmpty && (t.node? (start ++ [name])).isNone then .ok (.free (start ++ [name]))
      else follow t (start ++ [name]) rest

/-- Looks a path up. -/
def find (t : FileTree) (p : Path) : Except FileError Found :=
  if p.contains '\x00' then .error .nulInName
  else if p.isEmpty then .error .notFound
  else if maxPathLength < Text.utf8Length p then .error .nameTooLong
  else
    match t.follow (if Path.isAbsolute p then [] else t.workingDirectory) (Path.names p) with
    | .error e => .error e
    | .ok (.node location (.file content)) =>
      if Path.demandsDirectory p then .error .notDirectory else .ok (.node location (.file content))
    | .ok found => .ok found

/-- Whether the path leads to a directory. -/
def isDirectory (t : FileTree) (p : Path) : Bool :=
  match t.find p with
  | .ok (.node _ .directory) => true
  | _ => false

/-- The bytes of a file. -/
def bytesAt (t : FileTree) (p : Path) : Except FileError Bytes :=
  match t.find p with
  | .error e => .error e
  | .ok (.node _ (.file content)) => .ok content
  | .ok (.node _ .directory) => .error .isDirectory
  | .ok (.free _) => .error .notFound

/-- The text of a file. -/
def textAt (t : FileTree) (p : Path) : Except FileError Text :=
  match t.bytesAt p with
  | .error e => .error e
  | .ok content =>
    match Text.decode? content with
    | some text => .ok text
    | none => .error .notText

/-- Empties or makes the file at a location, and writes as much of the content as there is room for. -/
def fill (t : FileTree) (location : Location) (content : Bytes) (room : Room) :
    FileTree × Except FileError Unit :=
  (t.put location (.file (room.part content)),
    if room.holds content then .ok () else .error .noSpace)

/-- Writes a file in place of the one that is there, if any. -/
def write (t : FileTree) (p : Path) (content : Bytes) (room : Room := .ample) :
    FileTree × Except FileError Unit :=
  match t.find p with
  | .error e => (t, .error e)
  | .ok (.node location (.file _)) => t.fill location content room
  | .ok (.node _ .directory) => (t, .error .isDirectory)
  | .ok (.free location) =>
    if Path.demandsDirectory p then (t, .error .isDirectory) else t.fill location content room

/-- Creates a directory in one that is there. -/
def createDirectory (t : FileTree) (p : Path) : Except FileError FileTree :=
  match t.find p with
  | .error e => .error e
  | .ok (.node _ _) => .error .exists
  | .ok (.free location) => .ok (t.put location .directory)

/-- Creates the directory of the first `n` names of a path, and before it those of fewer names as
far as they are missing. -/
def createDirectoriesTo (t : FileTree) (p : Path) : Nat → FileTree × Except FileError Unit
  | 0 => (t, .ok ())
  | n + 1 =>
    let p' := Path.firstNames p (n + 1)
    match t.createDirectory p' with
    | .ok t => (t, .ok ())
    | .error .notFound =>
      match t.createDirectoriesTo p n with
      | (t, .error e) => (t, .error e)
      | (t, .ok _) =>
        match t.createDirectory p' with
        | .ok t => (t, .ok ())
        | .error e => (t, if t.isDirectory p' then .ok () else .error e)
    | .error e => (t, if t.isDirectory p' then .ok () else .error e)

/-- Creates a directory and those above it that are missing. -/
def createDirectories (t : FileTree) (p : Path) : FileTree × Except FileError Unit :=
  t.createDirectoriesTo p (Path.names p).length

/-- Creates the directories above a path as far as they are missing. -/
def createParents (t : FileTree) (p : Path) : FileTree × Except FileError Unit :=
  match Path.parent? p with
  | some parent => t.createDirectories parent
  | none => (t, .ok ())

/-- The names of the directories directly below a location. -/
def directoryNamesAt (t : FileTree) (parent : Location) : List Text :=
  t.entries.filterMap fun (location, n) =>
    match location.getLast?, n with
    | some name, .directory => if location.dropLast = parent then some name else none
    | _, _ => none

/-- The names of the directories directly below a directory. -/
def directoryNames (t : FileTree) (p : Path) : Except FileError (List Text) :=
  match t.find p with
  | .error e => .error e
  | .ok (.node location .directory) => .ok (t.directoryNamesAt location)
  | .ok (.node _ (.file _)) => .error .notDirectory
  | .ok (.free _) => .error .notFound

end FileTree

end MangaPress
