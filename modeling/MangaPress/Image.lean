/-
# Images in transit

An image travels as its media type and the Base64 text of its bytes. The same form serves for the
reference images that are sent and for the page that comes back.

Key definitions: `Image`, `Image.wire`, `Image.decoder`, `Image.dataUri`, `Image.downloadName`.
-/
import MangaPress.Json.Decode
import MangaPress.Json.Value

namespace MangaPress

/-- An image: its media type and the Base64 text of its bytes. -/
structure Image where
  mimeType : Text := []
  data : Text := []
deriving Repr, DecidableEq, Inhabited

namespace Image

/-- The media type of an image for which none is given. -/
def defaultMimeType : Text := "image/png"

/-- The image as a JSON object. -/
def wire (i : Image) : Json.Value :=
  .object [("mimeType", .string i.mimeType), ("data", .string i.data)]

/-- The fields of an image in JSON; the media type has two spellings. -/
def record : Record Json.Reading Json.Failure Image where
  blank := {}
  fields := [
    { name := "mimeType", otherNames := ["mime_type"], presence := .required
      read := fun r i => (Json.Decoder.text r).map fun t => { i with mimeType := t } },
    { name := "data", presence := .required
      read := fun r i => (Json.Decoder.text r).map fun t => { i with data := t } }]

/-- Reads an image from JSON. -/
def decoder : Json.Decoder Image :=
  Json.Decoder.record record

/-- An address that holds the image itself. -/
def dataUri (i : Image) : Text :=
  "data:" ++ i.mimeType ++ ";base64," ++ i.data

/-- The extension of file names for a media type. -/
def extensionFor (mimeType : Text) : Text :=
  if mimeType = "image/jpeg".toList ∨ mimeType = "image/jpg".toList then "jpg"
  else if mimeType = "image/webp".toList then "webp"
  else if mimeType = "image/gif".toList then "gif"
  else "png"

/-- The name under which the image is offered for download at a moment. -/
def downloadName (i : Image) (milliseconds : Int) : Text :=
  "manga_" ++ Text.ofInt milliseconds ++ "." ++ extensionFor i.mimeType

end Image

end MangaPress
