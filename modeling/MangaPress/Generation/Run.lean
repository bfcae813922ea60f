/-
# Generating a page

A run goes through five steps: find the credential, read the page, write the prompt, load the
reference images, and call the endpoint. The first two can fail, in this order, and then nothing is
asked of any server. What the endpoint answers is the result; a call is not repeated.

Key definitions: `GenerateRequest`, `resolveCredential`, `GeneratedPage`, `run`.
-/
import MangaPress.Generation.Endpoint
import MangaPress.Page.Prompt
import MangaPress.Reference.Load

namespace MangaPress.Generation

/-- A request for a page: its document, a credential for this request only, and whether to save the
image. -/
structure GenerateRequest where
  yaml : Text := []
  apiKey : Option Text := none
  save : Bool := false
deriving Repr, DecidableEq, Inhabited

/-- The decoder of requests. -/
def GenerateRequest.decoder : Json.Decoder GenerateRequest :=
  Json.Decoder.record {
    blank := {}
    fields := [
      { name := "yaml", presence := .required
        read := fun r x => (Json.Decoder.text r).map fun t => { x with yaml := t } },
      { name := "api_key"
        read := fun r x =>
          (Json.Decoder.optional Json.Decoder.text r).map fun t => { x with apiKey := t } },
      { name := "save"
        read := fun r x => (Json.Decoder.bool r).map fun b => { x with save := b } }] }

/-- The credential of a request: its own if that is not blank, and else the stored one. -/
def resolveCredential (files : FileTree) (path : Path) (explicit : Option Text) :
    Except Failure Text :=
  match explicit.bind Credential.trimmed? with
  | some key => .ok key
  | none =>
    match Credential.load files path with
    | .error e => .error (.ofCredential e)
    | .ok (some key) => .ok key
    | .ok none => .error (.validation "API key is not configured")

/-- A page that was generated. -/
structure GeneratedPage where
  image : Image
  prompt : Text
  references : List Reference.Status
  unmatched : List Text
deriving Repr, DecidableEq

/-- Runs a request. -/
def run (endpoint : Endpoint) (store : Reference.Store) (files : FileTree) (credentialPath : Path)
    (request : GenerateRequest) (x : Exchange) : Except Failure GeneratedPage × Exchange :=
  match resolveCredential files credentialPath request.apiKey with
  | .error e => (.error e, x)
  | .ok credential =>
    match Page.parse request.yaml with
    | .error e => (.error (.ofMarkup e), x)
    | .ok page =>
      let prompt := page.prompt
      let references := Reference.load store page.characterNames
      let x := x.lookUp (Reference.requests store page.characterNames)
      match endpoint.generate (Reference.Loaded.images references) prompt credential x with
      | (.error e, x) => (.error (.generation e), x)
      | (.ok image, x) =>
        (.ok {
          image
          prompt
          references := references.map Reference.Loaded.status
          unmatched := page.unmatchedNames }, x)

end MangaPress.Generation
