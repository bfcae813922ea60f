/-
# Loading reference images

Every character gets an outcome: its image, or the reason why there is none. An image that is
missing only reduces what is sent; nothing here fails.

Key definitions: `Reference.Loaded`, `Reference.load`, `Reference.requests`, `Loaded.image?`,
`Loaded.status`.
-/
import MangaPress.Base64
import MangaPress.Image
import MangaPress.Reference.Name
import MangaPress.Reference.Store

namespace MangaPress.Reference

/-- What loading the image of a character gave. -/
structure Loaded where
  name : Text
  outcome : Except StoreError Image

/-- The media type of an image whose store reports a content type: the reported type without its
parameters if it is one of an image. -/
def imageMimeType (contentType : Option Text) : Text :=
  match contentType with
  | none => Image.defaultMimeType
  | some t =>
    let reported := Text.trim (t.takeWhile (· != ';'))
    if "image/".toList.isPrefixOf reported then reported else Image.defaultMimeType

/-- The image in the content that a store gives. -/
def imageOf (c : Content) : Except StoreError Image :=
  if c.bytes.isEmpty then .error .empty
  else .ok { mimeType := imageMimeType c.contentType, data := Base64.encode c.bytes }

/-- Loads the image of a character. -/
def loadOne (store : Store) (name : Text) : Loaded where
  name := name
  outcome := (store.content (fileName name)).bind imageOf

/-- Loads the images of characters, in order. -/
def load (store : Store) (names : List Text) : List Loaded :=
  names.map (loadOne store)

/-- The requests that loading the images of characters makes, in order. -/
def requests (store : Store) (names : List Text) : List Web.Url :=
  names.filterMap fun name => store.request? (fileName name)

namespace Loaded

/-- The image, if it is there. -/
def image? (l : Loaded) : Option Image :=
  l.outcome.toOption

/-- The images that are there, in order. -/
def images (ls : List Loaded) : List Image :=
  ls.filterMap image?

/-- How many images are there. -/
def foundCount (ls : List Loaded) : Nat :=
  ls.countP fun l => l.image?.isSome

end Loaded

/-- What a client is told of the image of a character. -/
structure Status where
  name : Text
  fileName : Text
  loaded : Bool
  reason : Option Text
deriving Repr, DecidableEq

/-- What a client is told of an outcome. -/
def Loaded.status (l : Loaded) : Status where
  name := l.name
  fileName := Reference.fileName l.name
  loaded := l.image?.isSome
  reason :=
    match l.outcome with
    | .ok _ => none
    | .error e => some e.message

/-- The status as a JSON object; a reason that is not there is left out. -/
def Status.wire (s : Status) : Json.Value :=
  Json.Value.ofFields
    [("name", some (.string s.name)), ("file_name", some (.string s.fileName)),
      ("loaded", some (.bool s.loaded)), ("reason", s.reason.map .string)]

end MangaPress.Reference
