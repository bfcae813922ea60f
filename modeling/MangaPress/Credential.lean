/-
# The stored credential

The key for the generation endpoint is kept in a file: a JSON object of strings, in which it stands
under a name of its own, so that other entries can live beside it. A file that is missing or blank
holds no entries. A key is stored and given out without white space at its ends; a blank one is the
same as none, and is never stored.

The file is rewritten in its place. Where the disk has no room for all of it, it is left with its
beginning.

Key definitions: `Entries`, `Credential.readEntries`, `Credential.load`, `Credential.save`,
`Credential.clear`, `CredentialError`.
-/
import MangaPress.Files.Tree
import MangaPress.Json.Decode
import MangaPress.Json.Value
import MangaPress.Text.Blank

namespace MangaPress

/-- Why the credential cannot be read or stored. -/
inductive CredentialError where
  | files (e : FileError)
  | malformed
  | emptyKey
deriving Repr, DecidableEq

/-- The wording of the error. -/
def CredentialError.message : CredentialError → Text
  | files e => "I/O error: " ++ e.message
  | malformed => "JSON parse error"
  | emptyKey => "API key must not be empty"

/-- The entries of a credential file, in the order of their names in UTF-8, each name once. -/
abbrev Entries := List (Text × Text)

namespace Entries

/-- Whether a name stands before another one: the order of characters by code, which is the order
of their bytes in UTF-8. -/
def precedes : Text → Text → Bool
  | [], [] => false
  | [], _ :: _ => true
  | _ :: _, [] => false
  | a :: as, b :: bs =>
    if a.toNat < b.toNat then true
    else if b.toNat < a.toNat then false
    else precedes as bs

/-- Sets an entry. -/
def set (name value : Text) : Entries → Entries
  | [] => [(name, value)]
  | (k, v) :: rest =>
    if k = name then (name, value) :: rest
    else if precedes name k then (name, value) :: (k, v) :: rest
    else (k, v) :: set name value rest

/-- Removes an entry. -/
def remove (name : Text) (entries : Entries) : Entries :=
  entries.filter fun entry => entry.1 != name

/-- The entries that the members of an object make up: of those with one name the last counts. -/
def ofMembers (members : List (Text × Text)) : Entries :=
  members.foldl (fun entries m => entries.set m.1 m.2) []

/-- The text of a file with the entries. -/
def write (entries : Entries) : Text :=
  (Json.Value.object (entries.map fun entry => (entry.1, .string entry.2))).pretty

end Entries

namespace Credential

/-- The name of the key's entry. -/
def entryName : Text := "instagram_manga_api_key"

/-- The bytes of a blank file. -/
def isBlankByte (b : UInt8) : Bool :=
  b == 0x20 || b == 0x09 || b == 0x0A || b == 0x0C || b == 0x0D

/-- The entries that the content of a file holds. -/
def parseEntries (content : Bytes) : Except CredentialError Entries :=
  if content.all isBlankByte then .ok []
  else
    let document := Json.Document.ofSource (Json.Source.ofBytes content)
    match document.decode (Json.Decoder.members Json.Decoder.text) with
    | .ok members => .ok (Entries.ofMembers members)
    | .error _ => .error .malformed

/-- The entries of the file at a path. -/
def readEntries (files : FileTree) (path : Path) : Except CredentialError Entries :=
  match files.bytesAt path with
  | .ok content => parseEntries content
  | .error .notFound => .ok []
  | .error e => .error (.files e)

/-- Writes the entries to the file at a path; missing directories above it are created. -/
def writeEntries (files : FileTree) (path : Path) (entries : Entries) (room : Room := .ample) :
    FileTree × Except CredentialError Unit :=
  match files.createParents path with
  | (files, .error e) => (files, .error (.files e))
  | (files, .ok _) =>
    let (files, written) := files.write path (Text.encode entries.write) room
    (files, written.mapError .files)

/-- A key as it is stored, unless it is blank. -/
def trimmed? (key : Text) : Option Text :=
  let key := Text.trim key
  if key.isEmpty then none else some key

/-- The stored key, if there is one. -/
def load (files : FileTree) (path : Path) : Except CredentialError (Option Text) :=
  (readEntries files path).map fun entries => (entries.lookup entryName).bind trimmed?

/-- Stores a key. -/
def save (files : FileTree) (path : Path) (key : Text) (room : Room := .ample) :
    FileTree × Except CredentialError Unit :=
  match trimmed? key with
  | none => (files, .error .emptyKey)
  | some key =>
    match readEntries files path with
    | .error e => (files, .error e)
    | .ok entries => writeEntries files path (entries.set entryName key) room

/-- Removes the stored key; a file without one stays as it is. -/
def clear (files : FileTree) (path : Path) (room : Room := .ample) :
    FileTree × Except CredentialError Unit :=
  match readEntries files path with
  | .error e => (files, .error e)
  | .ok entries =>
    if (entries.lookup entryName).isSome then
      writeEntries files path (entries.remove entryName) room
    else (files, .ok ())

end Credential

end MangaPress
