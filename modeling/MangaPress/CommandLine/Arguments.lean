/-
# Arguments of the command line

The command takes the path of a page document, four options with a value each, and a flag. A value
follows its option as the next argument or after an equals sign; an argument that begins with a
hyphen is never the value of the option before it. After two hyphens alone all arguments are paths.
Three of the options have a variable of the environment to fall back on.

An option is settled when its value is known not to go on, that is when the next argument is looked
at; so an unknown argument is reported before a fault of the option in front of it.

Key definitions: `Arguments`, `ArgumentsError`, `Arguments.parse`.
-/
import MangaPress.Settings.Environment

namespace MangaPress

/-- What a command line asks for. -/
structure Arguments where
  yamlPath : Text
  sessionFolder : Option Text
  outputRoot : Option Text
  referenceBase : Option Text
  apiKey : Option Text
  printPrompt : Bool
deriving Repr, DecidableEq

/-- Why a command line is not obeyed. -/
inductive ArgumentsError where
  | helpAsked
  | unknownArgument
  | missingValue
  | emptyPath
  | missingPath
  | repeated
  | surplusValue
deriving Repr, DecidableEq

/-- The options with a value. -/
inductive ValueOption where
  | sessionFolder
  | outputRoot
  | referenceBase
  | apiKey
deriving Repr, DecidableEq

namespace ValueOption

/-- The name of an option on the command line. -/
def ofName? (name : Text) : Option ValueOption :=
  if name = "session-folder".toList then some sessionFolder
  else if name = "output-dir".toList then some outputRoot
  else if name = "assets-base".toList then some referenceBase
  else if name = "api-key".toList then some apiKey
  else none

/-- The variable that an option falls back on. -/
def environmentName? : ValueOption → Option Text
  | sessionFolder => none
  | outputRoot => some "OUTPUT_DIR"
  | referenceBase => some "ASSETS_BASE"
  | apiKey => some "GEMINI_API_KEY"

/-- Whether the value of an option is a path, which must not be empty. -/
def isPath : ValueOption → Bool
  | outputRoot => true
  | _ => false

end ValueOption

namespace Arguments

/-- What has been read but not settled. -/
inductive Pending where
  | nothing
  | option (o : ValueOption)
  | optionValue (o : ValueOption) (value : Text)
  | path (value : Text)
deriving Repr, DecidableEq

/-- What has been read so far. -/
structure Progress where
  yamlPath : Option Text := none
  values : List (ValueOption × Text) := []
  printPrompt : Bool := false
  pending : Pending := .nothing
  pathSeen : Bool := false
  pathsOnly : Bool := false
deriving Repr, DecidableEq

namespace Progress

/-- The value of an option, if it was given. -/
def value? (p : Progress) (o : ValueOption) : Option Text :=
  p.values.lookup o

/-- Gives an option its value. -/
def give (p : Progress) (o : ValueOption) (value : Text) : Except ArgumentsError Progress :=
  if (p.value? o).isSome then .error .repeated
  else if o.isPath && value.isEmpty then .error .emptyPath
  else .ok { p with values := (o, value) :: p.values }

/-- Settles what is pending. -/
def settle (p : Progress) : Except ArgumentsError Progress :=
  let p' := { p with pending := .nothing }
  match p.pending with
  | .nothing => .ok p'
  | .option _ => .error .missingValue
  | .optionValue o value => p'.give o value
  | .path value => if value.isEmpty then .error .emptyPath else .ok { p' with yamlPath := some value }

/-- Reads a long name, perhaps with a value after an equals sign. -/
def long (p : Progress) (name : Text) (value : Option Text) : Except ArgumentsError Progress :=
  match ValueOption.ofName? name with
  | some o =>
    match value with
    | some value => do (← p.settle).give o value
    | none => do
      let p ← p.settle
      .ok { p with pending := .option o }
  | none =>
    let isHelp := name = "help".toList
    if isHelp ∨ name = "print-prompt".toList then
      if value.isSome then .error .surplusValue
      else do
        let p ← p.settle
        if isHelp then .error .helpAsked
        else if p.printPrompt then .error .repeated
        else .ok { p with printPrompt := true }
    else .error .unknownArgument

/-- Reads a path. -/
def path (p : Progress) (value : Text) : Except ArgumentsError Progress :=
  if p.pathSeen then .error .unknownArgument
  else do
    let p ← p.settle
    .ok { p with pending := .path value, pathSeen := true }

/-- Reads an argument. -/
def step (p : Progress) (argument : Text) : Except ArgumentsError Progress :=
  if p.pathsOnly then p.path argument
  else
    match argument with
    | ['-', '-'] => .ok { p with pathsOnly := true }
    | '-' :: '-' :: rest =>
      match Text.splitOnce '=' rest with
      | some (name, value) => p.long name (some value)
      | none => p.long rest none
    | '-' :: c :: _ =>
      if c = 'h' then do
        let _ ← p.settle
        .error .helpAsked
      else .error .unknownArgument
    | _ =>
      match p.pending with
      | .option o => .ok { p with pending := .optionValue o argument }
      | _ => p.path argument

/-- Gives an option the value of its variable, if it was not given and the variable is set. -/
def fallBack (env : Environment) (p : Progress) (o : ValueOption) : Except ArgumentsError Progress :=
  if (p.value? o).isSome then .ok p
  else
    match o.environmentName?.bind env.get? with
    | some value => p.give o value
    | none => .ok p

/-- The arguments, when all have been read. -/
def finish (env : Environment) (p : Progress) : Except ArgumentsError Arguments := do
  let p ← p.settle
  let p ← [ValueOption.outputRoot, .referenceBase, .apiKey].foldlM (fallBack env) p
  match p.yamlPath with
  | none => .error .missingPath
  | some yamlPath =>
    .ok {
      yamlPath
      sessionFolder := p.value? .sessionFolder
      outputRoot := p.value? .outputRoot
      referenceBase := p.value? .referenceBase
      apiKey := p.value? .apiKey
      printPrompt := p.printPrompt }

end Progress

/-- What a command line asks for in an environment. -/
def parse (env : Environment) (arguments : List Text) : Except ArgumentsError Arguments := do
  let p ← arguments.foldlM Progress.step {}
  p.finish env

end Arguments

end MangaPress
