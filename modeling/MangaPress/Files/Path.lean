/-
# Paths

A path is a text whose names are divided by slashes; one that begins with a slash is absolute. Empty
names and single dots mean nothing. `Path.join` puts a path below another one, unless it is
absolute.

Key definitions: `Path.join`, `Path.names`, `Path.fileStem?`, `Path.firstNames`.
-/
import MangaPress.Text.Basic

namespace MangaPress

/-- A path as it is written. -/
abbrev Path := Text

namespace Path

/-- Whether the path begins at the root. -/
def isAbsolute (p : Path) : Bool :=
  p.head? == some '/'

/-- The path `p` as seen from `base`. -/
def join (base p : Path) : Path :=
  if isAbsolute p then p
  else if base.isEmpty || base.getLast? == some '/' then base ++ p
  else base ++ '/' :: p

/-- The names of the path in order, two dots for the parent among them. -/
def names (p : Path) : List Text :=
  (Text.splitOn '/' p).filter fun name => !name.isEmpty && name != ['.']

/-- Whether the writing of the path demands a directory: it ends in a slash or a single dot. -/
def demandsDirectory (p : Path) : Bool :=
  match (Text.splitOn '/' p).getLast? with
  | some name => name.isEmpty || name == ['.']
  | none => false

/-- The last name, unless it is that of a parent. -/
def fileName? (p : Path) : Option Text :=
  (names p).getLast?.filter fun name => name != ['.', '.']

/-- The name up to its last dot; a dot at its beginning does not count. -/
def stem (name : Text) : Text :=
  match (Text.splitOn '.' name).reverse with
  | _ :: before :: earlier =>
    let kept := Text.joinWith ['.'] (before :: earlier).reverse
    if kept.isEmpty then name else kept
  | _ => name

/-- The last name of the path without its extension. -/
def fileStem? (p : Path) : Option Text :=
  (fileName? p).map stem

/-- The path of the first `n` names. -/
def firstNames (p : Path) (n : Nat) : Path :=
  let written := Text.joinWith ['/'] ((names p).take n)
  if isAbsolute p then '/' :: written else written

/-- The path without its last name; a path without names has none. -/
def parent? (p : Path) : Option Path :=
  if (names p).isEmpty then none else some (firstNames p ((names p).length - 1))

end Path

end MangaPress
