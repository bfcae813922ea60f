/-
# Environments

An `Environment` holds the variables of a process. A file of assignments can add to it: variables
that are there already win, and so does the first of two assignments. The file is read line by line
until a line is no assignment; what stands before that line counts.

A line may begin with `export`. A value may hold quotes: between single ones nothing is special,
between double ones and outside a backslash escapes a character and a dollar sign is followed by the
name of a variable, perhaps between braces, whose value takes its place. A number sign after white
space begins a comment. A quoted value may go over several lines.

Key definitions: `Environment`, `Environment.get?`, `Environment.load`, `Assignment.parse`,
`Assignment.readValue`.
-/
import MangaPress.Text.Alphanumeric
import MangaPress.Text.Blank
import MangaPress.Text.Utf8

namespace MangaPress

/-- The variables of a process. -/
abbrev Environment := List (Text × Text)

/-- The value of a variable, if it is set. -/
def Environment.get? (env : Environment) (name : Text) : Option Text :=
  env.lookup name

/-- Sets a variable, unless it is set already. -/
def Environment.add (env : Environment) (name value : Text) : Environment :=
  if (env.get? name).isSome then env else env ++ [(name, value)]

namespace Assignment

/-! ## Values -/

/-- How a value is read on. -/
inductive Mode where
  /-- Outside of quotes. -/
  | plain
  /-- Between double quotes. -/
  | double
  /-- Between single quotes. -/
  | single
deriving Repr, DecidableEq

/-- What the next character belongs to. -/
inductive Part where
  /-- The value itself. -/
  | text
  /-- An escape that a backslash began. -/
  | escape
  /-- The name after a dollar sign. -/
  | name (read : Text)
  /-- The name after a dollar sign and an opening brace. -/
  | bracedName (read : Text)
  /-- What follows the value. -/
  | tail
deriving Repr, DecidableEq

/-- The character that an escape stands for. -/
def escape? : Char → Option Char
  | '\\' => some '\\'
  | '\'' => some '\''
  | '"' => some '"'
  | '$' => some '$'
  | ' ' => some ' '
  | 'n' => some '\n'
  | _ => none

/-- The value of a variable in reverse order; empty if it is not set. -/
def substitute (env : Environment) (name : Text) : Text :=
  ((env.get? name.reverse).getD []).reverse

/-- Reads a value on, with what was read so far in reverse order. -/
def readValueFrom (env : Environment) (mode : Mode) (part : Part) (read : Text) :
    Text → Option Text
  | [] =>
    match part, mode with
    | .bracedName _, _ => none
    | _, .double => none
    | _, .single => none
    | .name n, .plain => some (substitute env n ++ read).reverse
    | _, .plain => some read.reverse
  | c :: rest =>
    match part with
    | .tail =>
      if c == ' ' || c == '\t' then readValueFrom env mode .tail read rest
      else if c == '#' then if mode = .plain then some read.reverse else none
      else none
    | .escape =>
      match escape? c with
      | some e => readValueFrom env mode .text (e :: read) rest
      | none => none
    | .name n =>
      if Text.isAlphanumeric c then readValueFrom env mode (.name (c :: n)) read rest
      else if c == '\x7b' && n.isEmpty then readValueFrom env mode (.bracedName []) read rest
      else if c == '$' then readValueFrom env mode (.name []) (substitute env n ++ read) rest
      else readValueFrom env mode .text (c :: (substitute env n ++ read)) rest
    | .bracedName n =>
      if c == '\x7d' then readValueFrom env mode .text (substitute env n ++ read) rest
      else readValueFrom env mode (.bracedName (c :: n)) read rest
    | .text =>
      match mode with
      | .single =>
        if c == '\'' then readValueFrom env .plain .text read rest
        else readValueFrom env .single .text (c :: read) rest
      | .double =>
        if c == '$' then readValueFrom env .double (.name []) read rest
        else if c == '"' then readValueFrom env .plain .text read rest
        else if c == '\\' then readValueFrom env .double .escape read rest
        else readValueFrom env .double .text (c :: read) rest
      | .plain =>
        if c == '$' then readValueFrom env .plain (.name []) read rest
        else if c == '\'' then readValueFrom env .single .text read rest
        else if c == '"' then readValueFrom env .double .text read rest
        else if c == '\\' then readValueFrom env .plain .escape read rest
        else if c == ' ' || c == '\t' then readValueFrom env .plain .tail read rest
        else readValueFrom env .plain .text (c :: read) rest

/-- The value of an assignment. -/
def readValue (env : Environment) (t : Text) : Option Text :=
  readValueFrom env .plain .text [] t

/-! ## Assignments -/

/-- A character that the name of a variable begins with. -/
def isNameStart (c : Char) : Bool :=
  c.isAlpha || c == '_'

/-- A character of the name of a variable. -/
def isNameChar (c : Char) : Bool :=
  c.isAlphanum || c == '_' || c == '.'

/-- The name that a text begins with, and what follows it and the white space after it. -/
def readName (t : Text) : Option (Text × Text) :=
  if t.head?.any isNameStart then
    some (t.takeWhile isNameChar, (t.dropWhile isNameChar).dropWhile Text.isBlank)
  else none

/-- The name of an assignment, perhaps after `export`, and what follows its equals sign. -/
def readTarget (t : Text) : Option (Text × Text) := do
  let (name, rest) ← readName t
  match rest with
  | '=' :: rest => some (name, rest)
  | _ =>
    if name = "export".toList then
      let (name, rest) ← readName rest
      match rest with
      | '=' :: rest => some (name, rest)
      | _ => none
    else none

/-- A line of a file of assignments: none where it is not one, and no assignment where it is empty
or a comment. -/
def parse (env : Environment) (line : Text) : Option (Option (Text × Text)) :=
  let t := (Text.dropEndWhile Text.isBlank line).dropWhile Text.isBlank
  if t.isEmpty || t.head? == some '#' then some none
  else do
    let (name, rest) ← readTarget t
    let rest := rest.dropWhile Text.isBlank
    if rest.isEmpty || rest.head? == some '#' then some (some (name, []))
    else
      let value ← readValue env rest
      some (some (name, value))

end Assignment

namespace Environment

/-! ## Lines -/

/-- Where in an assignment the end of a physical line leaves a reader. -/
inductive LineState where
  | complete
  | space
  | escape
  | single
  | singleEscape
  | double
  | doubleEscape
deriving Repr, DecidableEq

/-- The state after a character that is not inside quotes. -/
def LineState.afterPlain (c : Char) : LineState :=
  if c == '\\' then .escape
  else if c == '"' then .double
  else if c == '\'' then .single
  else .complete

/-- The state after one more character. -/
def LineState.next (s : LineState) (c : Char) : LineState :=
  match s with
  | .space => afterPlain c
  | .complete =>
    if Text.isBlank c && c != '\n' && c != '\r' then .space else afterPlain c
  | .escape => .complete
  | .double => if c == '\\' then .doubleEscape else if c == '"' then .complete else .double
  | .doubleEscape => .double
  | .single => if c == '\\' then .singleEscape else if c == '\'' then .complete else .single
  | .singleEscape => .single

/-- Reads a physical line on: its text up to a comment, and the state at its end; none for the state
where a comment ends it. -/
def scanLine : LineState → Text → Text × Option LineState
  | s, [] => ([], some s)
  | s, c :: rest =>
    if s = .space ∧ c = '#' then ([], none)
    else
      let (t, s) := scanLine (s.next c) rest
      (c :: t, s)

/-- The physical lines of a file, each with the line feed that ends it; none for one that is not
UTF-8. -/
def physicalLines (content : Bytes) : List (Option Text) :=
  let rec go (line : Bytes) : Bytes → List (Option Text)
    | [] => if line.isEmpty then [] else [Text.decode? line.reverse]
    | b :: rest =>
      if b == 0x0A then Text.decode? (b :: line).reverse :: go [] rest else go (b :: line) rest
  go [] content

/-- The text without the line feed at its end, and a carriage return before it. -/
def dropLineEnd (t : Text) : Text :=
  match Text.stripEnd? ['\n'] t with
  | none => t
  | some t => (Text.stripEnd? ['\r'] t).getD t

/-- Puts physical lines together to lines; a line that is not to be read is none, and ends them.
`read` holds the physical lines of the line at hand. -/
def joinLines : LineState → Text → List (Option Text) → List (Option Text)
  | s, _, [] => if s = .complete then [] else [none]
  | _, _, none :: _ => [none]
  | s, read, some physical :: rest =>
    if (read ++ physical).dropWhile Text.isBlank |>.head?.any (· == '#') then
      some [] :: joinLines .complete [] rest
    else
      match scanLine s physical with
      | (t, none) => some (read ++ t) :: joinLines .complete [] rest
      | (t, some .complete) => some (dropLineEnd (read ++ t)) :: joinLines .complete [] rest
      | (t, some s) => joinLines s (read ++ t) rest

/-- The content of a file without a byte order mark at its beginning. -/
def dropByteOrderMark (content : Bytes) : Bytes :=
  match content with
  | 0xEF :: 0xBB :: 0xBF :: rest => rest
  | content => content

/-- Adds the assignments of lines, up to one that is none. -/
def loadLines (env : Environment) : List (Option Text) → Environment
  | [] => env
  | none :: _ => env
  | some line :: rest =>
    match Assignment.parse env line with
    | none => env
    | some none => loadLines env rest
    | some (some (name, value)) => loadLines (env.add name value) rest

/-- Adds the assignments of a file. -/
def load (env : Environment) (content : Bytes) : Environment :=
  env.loadLines (joinLines .complete [] (physicalLines (dropByteOrderMark content)))

end Environment

end MangaPress
