/-
# The command

The command reads a page document and prints its prompt, or generates the page and saves it. It
takes its arguments, its environment, to which a file of assignments in the working directory adds, or
else one in the nearest directory above it, and the file tree, and leaves an exit status, what it
prints, and the file tree.

Key definitions: `Command.Input`, `Command.Outcome`, `Command.run`, `Command.Failed.report`,
`Command.pathsOf`.
-/
import MangaPress.CommandLine.Arguments
import MangaPress.Generation.Run
import MangaPress.Output
import MangaPress.Settings.Basic

namespace MangaPress.Command

/-- What the command is given. -/
structure Input where
  arguments : List Text
  environment : Environment
  files : FileTree
  date : Date
  /-- The answers that the generation endpoint has in store. -/
  answers : Web.Answers
  /-- The answers of a server of reference images. -/
  served : Web.Url → Web.Answer
  /-- The room on the disk for the page. -/
  room : Room := .ample

/-- Why the command fails once its arguments are understood. -/
inductive Failed where
  | settings (e : SettingsError)
  | readDocument (path : Path) (e : FileError)
  | markup (e : MarkupError)
  | generation (e : Failure)
  | output (e : OutputError)

/-- A failure as it is told: what was being done, and its cause if it has one apart. -/
def Failed.report : Failed → Text × Option Text
  | settings e => (e.demand, some e.cause.message)
  | readDocument path e => ("Failed to read " ++ path, some e.message)
  | markup e => (e.message, none)
  | generation (.generation (.refused status message)) =>
    ((Failure.generation (.refused status message)).message, some message)
  | generation (.generation .noImage) =>
    ((Failure.generation .noImage).message, some GenerationError.noImage.message)
  | generation e => (e.message, none)
  | output e => (e.task, e.cause?.map FileError.message)

/-- The text with every line moved in. -/
def indented (t : Text) : Text :=
  Text.joinWith ['\n'] ((Text.splitOn '\n' t).map fun line => "    ".toList ++ line)

/-- The lines that tell of a failure. -/
def Failed.lines (f : Failed) : List Text :=
  let (task, cause) := f.report
  Text.splitOn '\n' ("Error: " ++ task) ++
    match cause with
    | none => []
    | some cause => [[], "Caused by:"] ++ Text.splitOn '\n' (indented cause)

/-- What the command leaves. -/
structure Outcome where
  exit : Nat
  printed : Text := []
  /-- The lines of messages; there are none for arguments that are not understood. -/
  messages : List Text := []
  files : FileTree
  /-- The requests made for reference images. -/
  lookups : List Web.Url := []
  /-- The calls made to the generation endpoint. -/
  calls : List Generation.Call := []

/-- The name of the file in which the page of a document is saved. -/
def outputFileName (yamlPath : Path) (mimeType : Text) : Text :=
  (Path.fileStem? yamlPath).getD "page" ++ "_generated." ++ Image.extensionFor mimeType

/-- The message on a reference image that was not loaded. -/
def missingLine (s : Reference.Status) : Option Text :=
  if s.loaded then none
  else
    some ("Missing reference image for " ++ s.name ++ ": " ++ s.reason.getD "not found")

/-- The name of the file of assignments. -/
def assignmentFile : Path := ".env"

/-- The variables of the environment that have a meaning for the command. -/
def variableNames : List Text :=
  ["PORT", "RUST_LOG", "GEMINI_API_BASE", "GEMINI_MODEL", "GEMINI_TIMEOUT_SECS", "GEMINI_API_KEY",
    "ASSETS_BASE", "CREDENTIALS_PATH", "OUTPUT_DIR", "MANGA_SESSION_ID"]

/-- What the command tells of its arguments when it is asked for help. -/
def usage : Text :=
  Text.joinWith ['\n'] [
    "Usage: generate-page [OPTIONS] <YAML_PATH>", [],
    "Options:",
    "  --session-folder <NAME>  folder of the session below the day",
    "  --output-dir <PATH>      where pages are saved",
    "  --assets-base <BASE>     directory or address of the reference images",
    "  --api-key <KEY>          key for this run only",
    "  --print-prompt           print the prompt and do nothing else", []]

/-- The path of the file of assignments in the directory of these names, the innermost first. -/
def assignmentPath (directory : List Text) : Path :=
  '/' :: Text.joinWith ['/'] (directory.reverse ++ [assignmentFile])

/-- The content of the file of assignments in a directory, or in the nearest one above it that has one.
Where it cannot be told whether there is one, none is read. -/
def assignments? (files : FileTree) : List Text → Option Bytes
  | [] => (files.bytesAt (assignmentPath [])).toOption
  | name :: above =>
    match files.bytesAt (assignmentPath (name :: above)) with
    | .ok content => some content
    | .error .notFound | .error .isDirectory => assignments? files above
    | .error _ => none

/-- The environment with the assignments of the file, if there is one. -/
def fullEnvironment (i : Input) : Environment :=
  match assignments? i.files i.files.workingDirectory.reverse with
  | some content => i.environment.load content
  | none => i.environment

/-- The outcome of a failure. -/
def fail (files : FileTree) (f : Failed) : Outcome where
  exit := 1
  messages := f.lines
  files := files

/-- The outcome of a run whose page is saved: the messages on reference images come first. A run that
breaks off has an exit status of its own. -/
def saved (missing : List Text) (done : FileTree × Except OutputError Path) : Outcome :=
  match done with
  | (files, .error .overflow) =>
    { exit := 101, messages := missing ++ [OutputError.overflow.task], files }
  | (files, .error e) =>
    let outcome := fail files (.output e)
    { outcome with messages := missing ++ outcome.messages }
  | (files, .ok path) =>
    { exit := 0, messages := missing ++ Text.splitOn '\n' ("Saved: " ++ path), files }

/-- Generates a page and saves it. -/
def generate (i : Input) (env : Environment) (settings : Settings) (a : Arguments) (yaml : Text) :
    Outcome :=
  let endpoint := Generation.Endpoint.of settings.apiBase settings.model
  let place := Reference.Place.ofBase (a.referenceBase.getD settings.referenceBase)
  let store := Reference.Store.ofPlace i.files i.served place
  let request : Generation.GenerateRequest := { yaml, apiKey := a.apiKey, save := true }
  let (result, x) :=
    Generation.run endpoint store i.files settings.credentialPath request { answers := i.answers }
  let outcome : Outcome :=
    match result with
    | .error e => fail i.files (.generation e)
    | .ok page =>
      let missing := page.references.flatMap fun s =>
        ((missingLine s).map (Text.splitOn '\n')).getD []
      let root := a.outputRoot.getD settings.outputRoot
      let fileName := outputFileName a.yamlPath page.image.mimeType
      let session := resolveSession a.sessionFolder (env.get? "MANGA_SESSION_ID")
      saved missing (Output.save i.files root fileName session i.date page.image i.room)
  { outcome with lookups := x.lookups.reverse, calls := x.calls.reverse }

/-- The paths that the command looks at or writes to, the file of assignments apart. -/
def pathsOf (i : Input) : List Path :=
  let env := fullEnvironment i
  match Arguments.parse env i.arguments, Settings.ofEnvironment env with
  | .ok a, .ok settings =>
    [a.yamlPath, a.referenceBase.getD settings.referenceBase, settings.credentialPath,
      a.outputRoot.getD settings.outputRoot]
  | _, _ => []

/-- Runs the command. -/
def run (i : Input) : Outcome :=
  let env := fullEnvironment i
  match Arguments.parse env i.arguments with
  | .error .helpAsked => { exit := 0, printed := usage, files := i.files }
  | .error _ => { exit := 2, files := i.files }
  | .ok a =>
    match Settings.ofEnvironment env with
    | .error e => fail i.files (.settings e)
    | .ok settings =>
      match i.files.textAt a.yamlPath with
      | .error e => fail i.files (.readDocument a.yamlPath e)
      | .ok yaml =>
        if a.printPrompt then
          match Page.parse yaml with
          | .error e => fail i.files (.markup e)
          | .ok page => { exit := 0, printed := page.prompt ++ ['\n'], files := i.files }
        else generate i env settings a yaml

end MangaPress.Command
