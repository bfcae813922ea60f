/-
# The generation endpoint

One call sends the reference images and the prompt as a single turn of the user and asks for an
image. The credential travels in the query of the address and nowhere else.

An answer whose status is no success is a refusal with the message that its body gives, or else with
the usual wording of the status. In an answer that succeeds, the first part of the first candidate
with data in it holds the image.

What goes out and what is still to come back is an `Exchange`; a call takes the next answer. An answer
that points elsewhere is followed, and then the answer that comes from there is the one that counts.

Key definitions: `Endpoint`, `Endpoint.call?`, `requestBody`, `Call`, `Exchange`, `Exchange.post`,
`interpret`, `Endpoint.generate`.
-/
import MangaPress.Failure
import MangaPress.Image
import MangaPress.Web.Redirect

namespace MangaPress.Generation

/-- A model behind an address. -/
structure Endpoint where
  base : Text
  model : Text
deriving Repr, DecidableEq

/-- The base address for which none is given. -/
def defaultBase : Text := "https://generativelanguage.googleapis.com"

/-- The model for which none is given. -/
def defaultModel : Text := "gemini-2.5-flash-image-preview"

/-- The endpoint below a base address; slashes at its end do not count. -/
def Endpoint.of (base model : Text) : Endpoint where
  base := Text.dropEndWhile (· == '/') base
  model := model

/-- The address of the endpoint. -/
def Endpoint.address (e : Endpoint) : Text :=
  e.base ++ "/v1beta/models/" ++ e.model ++ ":generateContent"

/-- A request to the endpoint. -/
structure Call where
  url : Web.Url
  body : Text
deriving Repr, DecidableEq

/-- The parts of the user's turn: the images in order and then the prompt. -/
def requestParts (images : List Image) (prompt : Text) : List Json.Value :=
  images.map (fun i => Json.Value.ofFields [("inlineData", some i.wire)]) ++
    [.ofFields [("text", some (.string prompt))]]

/-- What is sent to the endpoint. -/
def requestBody (images : List Image) (prompt : Text) : Json.Value :=
  .ofFields [("contents", some (.array [.ofFields
    [("role", some (.string "user")), ("parts", some (.array (requestParts images prompt)))]]))]

/-- The call for an image; there is none if the address of the endpoint is not one. -/
def Endpoint.call? (e : Endpoint) (images : List Image) (prompt credential : Text) : Option Call :=
  (Web.Url.parse? e.address).map fun url =>
    { url := url.addPair "key" credential, body := (requestBody images prompt).compact }

/-- The traffic with servers. `answers` are those that the endpoint, and whoever it points to, still
have in store; `lookups` are the requests made for reference images, `calls` the calls made to the
endpoint, and `followed` the requests made because an answer to a call pointed elsewhere, all with the
last one first. -/
structure Exchange where
  answers : Web.Answers
  lookups : List Web.Url := []
  calls : List Call := []
  followed : List Web.Asked := []

namespace Exchange

/-- Comes to an answer that is taken, from the answer to a request; at most `n` answers are
followed. -/
def settle (n : Nat) (x : Exchange) (asked : Web.Asked) (answer : Web.Answer) :
    Web.Answer × Exchange :=
  match asked.after answer, n with
  | .take answer, _ => (answer, x)
  | .follow _, 0 => (.lost, x)
  | .follow next, n + 1 =>
    let (answer, answers) := x.answers.next
    settle n { x with answers, followed := next :: x.followed } next answer

/-- Makes a call. -/
def post (x : Exchange) (call : Call) : Web.Answer × Exchange :=
  let (answer, answers) := x.answers.next
  settle Web.maxRedirects { x with answers, calls := call :: x.calls }
    { url := call.url, posted := some call.body } answer

/-- Makes requests for reference images, in order. -/
def lookUp (x : Exchange) (urls : List Web.Url) : Exchange :=
  { x with lookups := urls.reverse ++ x.lookups }

end Exchange

/-! ## Answers -/

/-- The image data in a part of an answer. -/
structure InlineData where
  mimeType : Option Text := none
  data : Option Text := none
deriving Repr, DecidableEq, Inhabited

/-- A part of a candidate. -/
structure Part where
  inlineData : Option InlineData := none
  text : Option Text := none
deriving Repr, DecidableEq, Inhabited

/-- What a candidate holds. -/
structure Content where
  parts : Option (List Part) := none
deriving Repr, DecidableEq, Inhabited

/-- One of the results that an answer offers. -/
structure Candidate where
  content : Option Content := none
deriving Repr, DecidableEq, Inhabited

/-- An answer that succeeds. -/
structure Response where
  candidates : Option (List Candidate) := none
deriving Repr, DecidableEq, Inhabited

/-- What a refusal says of its reason. -/
structure Refusal where
  message : Option Text := none
deriving Repr, DecidableEq, Inhabited

open Json (Reading Decoder)

/-- The decoder of image data; the media type has two spellings. -/
def InlineData.decoder : Decoder InlineData :=
  Decoder.record {
    blank := {}
    fields := [
      { name := "mimeType", otherNames := ["mime_type"]
        read := fun r d =>
          (Decoder.optional Decoder.text r).map fun t => { d with mimeType := t } },
      { name := "data"
        read := fun r d => (Decoder.optional Decoder.text r).map fun t => { d with data := t } }] }

/-- The decoder of parts; the image data has two spellings. -/
def Part.decoder : Decoder Part :=
  Decoder.record {
    blank := {}
    fields := [
      { name := "inlineData", otherNames := ["inline_data"]
        read := fun r p =>
          (Decoder.optional InlineData.decoder r).map fun d => { p with inlineData := d } },
      { name := "text"
        read := fun r p => (Decoder.optional Decoder.text r).map fun t => { p with text := t } }] }

/-- The decoder of what a candidate holds. -/
def Content.decoder : Decoder Content :=
  Decoder.record {
    blank := {}
    fields := [
      { name := "parts"
        read := fun r c =>
          (Decoder.optional (Decoder.list Part.decoder) r).map fun ps => { c with parts := ps } }] }

/-- The decoder of candidates. -/
def Candidate.decoder : Decoder Candidate :=
  Decoder.record {
    blank := {}
    fields := [
      { name := "content"
        read := fun r c =>
          (Decoder.optional Content.decoder r).map fun x => { c with content := x } }] }

/-- The decoder of answers that succeed. -/
def Response.decoder : Decoder Response :=
  Decoder.record {
    blank := {}
    fields := [
      { name := "candidates"
        read := fun r x =>
          (Decoder.optional (Decoder.list Candidate.decoder) r).map fun cs =>
            { x with candidates := cs } }] }

/-- The decoder of what a refusal says; given by position, the message must be there. -/
def Refusal.inner : Decoder Refusal :=
  Decoder.record {
    blank := {}
    fields := [
      { name := "message", presence := .byName
        read := fun r x => (Decoder.optional Decoder.text r).map fun t => { x with message := t } }] }

/-- The decoder of the body of a refusal. -/
def Refusal.decoder : Decoder Refusal :=
  Decoder.record {
    blank := {}
    fields := [
      { name := "error", presence := .required
        read := fun r _ => Refusal.inner r }] }

/-- A text, unless it is empty. -/
def nonEmpty? (t : Option Text) : Option Text :=
  t.filter fun t => !t.isEmpty

/-- The image in a part, if it has one. -/
def Part.image? (p : Part) : Option Image := do
  let inline ← p.inlineData
  let data ← nonEmpty? inline.data
  some { mimeType := (nonEmpty? inline.mimeType).getD Image.defaultMimeType, data }

/-- The parts of the first candidate. -/
def Response.parts (r : Response) : List Part :=
  ((((r.candidates.bind List.head?).bind Candidate.content).bind Content.parts)).getD []

/-- The first image in an answer. -/
def Response.image? (r : Response) : Option Image :=
  r.parts.findSome? Part.image?

/-- The message of a refusal. -/
def refusalMessage (status : Nat) (body : Bytes) : Text :=
  let said :=
    ((Json.Document.ofSource (Json.Source.ofBytes body)).decode Refusal.decoder).toOption.bind
      fun r => nonEmpty? r.message
  match said with
  | some message => message
  | none => (Web.reasonOf? status).getD (Text.ofNat status)

/-- The image that an answer brings. One that points elsewhere brings none by itself. -/
def interpret : Web.Answer → Except GenerationError Image
  | .lost | .redirect .. => .error .transport
  | .reply status _ body complete =>
    if !complete then .error .transport
    else if !Web.isSuccess status then .error (.refused status (refusalMessage status body))
    else
      match (Json.Document.ofSource (Json.Source.ofBytes body)).decode Response.decoder with
      | .error _ => .error .malformed
      | .ok response =>
        match response.image? with
        | some image => .ok image
        | none => .error .noImage

/-- Asks the endpoint for an image. -/
def Endpoint.generate (e : Endpoint) (images : List Image) (prompt credential : Text)
    (x : Exchange) : Except GenerationError Image × Exchange :=
  match e.call? images prompt credential with
  | none => (.error .transport, x)
  | some call =>
    let (answer, x) := x.post call
    (interpret answer, x)

end MangaPress.Generation
