/-
# The program

`main` gives the command its arguments, the variables of the process and what stands on the disk at
the paths where it looks, and puts the outcome into effect: text to the standard streams, new files
and directories onto the disk, and the exit status back to the caller.

No server can be reached from here, so generating a page ends as it does when the endpoint is lost.
-/
import MangaPress.CommandLine.Command
import Std.Time

namespace MangaPress.Program

/-- A location as an absolute path. -/
def written (location : Location) : String :=
  String.ofList ('/' :: Text.joinWith ['/'] location)

/-- The location that names lead to from another one. -/
def resolve (start : Location) (names : List Text) : Location :=
  names.foldl (fun at_ name => if name = ['.', '.'] then at_.dropLast else at_ ++ [name]) start

/-- Adds what stands on the disk at a location, and all that is below it. What cannot be read is
left out. -/
partial def addBelow (files : FileTree) (location : Location) : IO FileTree := do
  let path := (← IO.currentDir) / written location
  try
    if ← path.isDir then
      let mut files := if location.isEmpty then files else files.put location .directory
      for entry in ← path.readDir do
        files ← addBelow files (location ++ [entry.fileName.toList])
      return files
    else if ← path.pathExists then
      return files.put location (.file (← IO.FS.readBinFile path).toList)
    else return files
  catch _ => return files

/-- Adds the directories on the disk that lead to a location. -/
def addAbove (files : FileTree) (location : Location) : IO FileTree := do
  let mut files := files
  for n in List.range location.length do
    let above := location.take n
    if !above.isEmpty && (← ((← IO.currentDir) / written above).isDir) then
      files := files.put above .directory
  return files

/-- Adds what stands on the disk at a path, and the directories that lead there. -/
def addPath (files : FileTree) (path : Path) : IO FileTree := do
  let start := if Path.isAbsolute path then [] else files.workingDirectory
  let location := resolve start (Path.names path)
  addBelow (← addAbove files location) location

/-- The words of a file of assignments, which may name variables. -/
def wordsOf (content : Bytes) : List Text :=
  let spaced := ((Text.decode? content).getD []).map fun c =>
    if c.isAlphanum || c == '_' then c else ' '
  (Text.splitOn ' ' spaced).filter fun word => !word.isEmpty

/-- The variables of the process with the given names. -/
def environmentOf (names : List Text) : IO Environment := do
  let mut env : Environment := []
  for name in names do
    if let some value ← IO.getEnv (String.ofList name) then
      env := env.add name value.toList
  return env

/-- The day in the time zone of the process. -/
def today : IO Date := do
  let day ← Std.Time.PlainDate.now
  return { year := day.year.toInt, month := day.month.toNat, day := day.day.toNat }

/-- Puts what is new or changed in a tree onto the disk, directories first. -/
def store (before after : FileTree) : IO Unit := do
  let changed := after.entries.filter fun (location, n) => before.entries.lookup location != some n
  for (location, n) in changed do
    if n = .directory then IO.FS.createDirAll (written location)
  for (location, n) in changed do
    if let .file content := n then
      IO.FS.writeBinFile (written location) (ByteArray.mk content.toArray)

end MangaPress.Program

open MangaPress MangaPress.Program in
/-- Runs the command in the process. -/
def main (arguments : List String) : IO UInt32 := do
  let workingDirectory := Path.names (← IO.currentDir).toString.toList
  let directory := workingDirectory.reverse
  let assignmentPaths := (List.range (directory.length + 1)).map fun n =>
    Command.assignmentPath (directory.drop n)
  let files ← assignmentPaths.foldlM addPath { workingDirectory }
  let words := wordsOf ((Command.assignments? files directory).getD [])
  let input : Command.Input := {
    arguments := arguments.map String.toList
    environment := ← environmentOf (Command.variableNames ++ words)
    files
    date := ← today
    answers := [.lost]
    served := fun _ => .lost }
  let files ← (Command.pathsOf input).foldlM addPath files
  let outcome := Command.run { input with files }
  IO.print (String.ofList outcome.printed)
  for line in outcome.messages do
    IO.eprintln (String.ofList line)
  store files outcome.files
  return outcome.exit.toUInt32
