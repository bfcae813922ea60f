/-
# Where reference images come from

A `Store` gives the bytes under a file name, or says why there are none, and says which request it
makes of a server to find out. There are two kinds: a directory, which needs no request, and a web
server (`Place`). An address that begins with `http://` or `https://` is that of a server; everything
else names a directory.

Key definitions: `Store`, `StoreError`, `Place`, `Place.ofBase`, `Place.locate`,
`Store.ofDirectory`, `Store.ofServer`, `Store.ofPlace`.
-/
import MangaPress.Files.Tree
import MangaPress.Web.Redirect

namespace MangaPress.Reference

/-- Why a store has no bytes under a file name. -/
inductive StoreError where
  | files (e : FileError)
  | transport
  | status (code : Nat)
  | empty
deriving Repr, DecidableEq

/-- The wording of the error. -/
def StoreError.message : StoreError → Text
  | files e => "I/O error: " ++ e.message
  | transport => "HTTP error"
  | status code => "asset not available (status " ++ Text.ofNat code ++ ")"
  | empty => "asset is empty"

/-- Bytes from a store, with their media type if the store knows one. -/
structure Content where
  bytes : Bytes
  contentType : Option Text := none
deriving Repr, DecidableEq

/-- What is found under file names, and what is asked for it. -/
structure Store where
  /-- The content under a file name. -/
  content : Text → Except StoreError Content
  /-- The request that looking up a file name makes, if it makes one. -/
  request? : Text → Option Web.Url

/-- A base under which file names are looked up. -/
inductive Place where
  | directory (path : Path)
  | server (address : Text)
deriving Repr, DecidableEq

/-- Whether a base is the address of a server. -/
def isAddress (base : Text) : Bool :=
  "http://".toList.isPrefixOf base || "https://".toList.isPrefixOf base

/-- The place that a base stands for. -/
def Place.ofBase (base : Text) : Place :=
  if isAddress base then .server (Text.dropEndWhile (· == '/') base) else .directory base

/-- Where a file name is looked up. -/
def Place.locate (file : Text) : Place → Text
  | directory path => Path.join path file
  | server address => address ++ '/' :: file

namespace Store

/-- The files of a directory. -/
def ofDirectory (files : FileTree) (path : Path) : Store where
  content := fun file =>
    match files.bytesAt (Path.join path file) with
    | .ok bytes => .ok { bytes }
    | .error e => .error (.files e)
  request? := fun _ => none

/-- The content that an answer brings. One that points elsewhere brings none by itself. -/
def contentOf : Web.Answer → Except StoreError Content
  | .lost | .redirect .. => .error .transport
  | .reply status contentType body complete =>
    if !Web.isSuccess status then .error (.status status)
    else if complete then .ok { bytes := body, contentType := contentType.bind Web.headerText? }
    else .error .transport

/-- The files of a server that gives these answers, and of those that it points to. Where the location
of a file is no address, no request is made for it. -/
def ofServer (address : Text) (answer : Web.Url → Web.Answer) : Store where
  content := fun file =>
    match Web.Url.parse? ((Place.server address).locate file) with
    | none => .error .transport
    | some url => contentOf (Web.fetch answer url)
  request? := fun file => Web.Url.parse? ((Place.server address).locate file)

/-- The files of a place. -/
def ofPlace (files : FileTree) (answer : Web.Url → Web.Answer) : Place → Store
  | .directory path => ofDirectory files path
  | .server address => ofServer address answer

end Store

end MangaPress.Reference
