/-
# The service

The service answers requests for its state, the stored credential and pages. Its own state between
two requests is the file tree and the answers that the generation endpoint still has in store; what
differs from moment to moment is handed to each request (`Occasion`).

A generated image is not lost to a failed attempt to save it: the answer then says why it was not
saved. Only where the numbers of a day have run out the request breaks off, and there is no answer.

Key definitions: `Service`, `Service.State`, `Occasion`, `Route`, `Service.handle`, `Service.serve`.
-/
import MangaPress.Generation.Run
import MangaPress.Output
import MangaPress.Page.Example
import MangaPress.Service.Request

namespace MangaPress

/-- What the service is set up with. -/
structure Service where
  endpoint : Generation.Endpoint
  references : Reference.Place
  credentialPath : Path
  outputRoot : Path
  session : Option Text := none
  /-- What the reader of JSON says of the body of a request that it cannot read. -/
  detail : Service.Request → Text := fun _ => []

namespace Service

/-- What differs from moment to moment: the time, the day, a name for what is generated, and the room
on the disk. -/
structure Occasion where
  milliseconds : Int
  date : Date
  id : Text
  room : Room := .ample
deriving Repr, DecidableEq, Inhabited

/-- What the service and the world leave each other between two requests. `served` are the answers
of a server of reference images. -/
structure State extends Generation.Exchange where
  files : FileTree
  served : Web.Url → Web.Answer

/-- What can be asked of the service. -/
inductive Route where
  | health
  | credentialStatus
  | saveCredential
  | clearCredential
  | examplePage
  | validatePage
  | promptOfPage
  | generatePage
deriving Repr, DecidableEq

/-- The routes at a path, each with its method. -/
def routesAt (path : Text) : List (Text × Route) :=
  if path = "/health".toList then [("GET", .health)]
  else if path = "/api/v1/credential".toList then
    [("GET", .credentialStatus), ("PUT", .saveCredential), ("DELETE", .clearCredential)]
  else if path = "/api/v1/pages/example".toList then [("GET", .examplePage)]
  else if path = "/api/v1/pages/validate".toList then [("POST", .validatePage)]
  else if path = "/api/v1/pages/prompt".toList then [("POST", .promptOfPage)]
  else if path = "/api/v1/pages/generate".toList then [("POST", .generatePage)]
  else []

/-- The methods of routes; where one can get something, one can also ask for the head of it. -/
def methodsOf (routes : List (Text × Route)) : List Text :=
  routes.flatMap fun (method, _) =>
    if method = "GET".toList then [method, "HEAD"] else [method]

/-- The answer with a JSON body. -/
def ok (fields : List (String × Option Json.Value)) : Response where
  body := .json (.ofFields fields)

/-- The answer to a request that fails. -/
def failed (f : Failure) : Response where
  status := f.status
  body := .json f.wire

/-- The body of a request about a page. -/
structure PageRequest where
  yaml : Text := []
deriving Repr, DecidableEq, Inhabited

/-- The decoder of requests about pages. -/
def PageRequest.decoder : Json.Decoder PageRequest :=
  Json.Decoder.record {
    blank := {}
    fields := [
      { name := "yaml", presence := .required
        read := fun r _ => (Json.Decoder.text r).map fun t => { yaml := t } }] }

/-- The body of a request to store a credential. -/
structure CredentialRequest where
  apiKey : Text := []
deriving Repr, DecidableEq, Inhabited

/-- The decoder of requests to store a credential. -/
def CredentialRequest.decoder : Json.Decoder CredentialRequest :=
  Json.Decoder.record {
    blank := {}
    fields := [
      { name := "api_key", presence := .required
        read := fun r _ => (Json.Decoder.text r).map fun t => { apiKey := t } }] }

/-- Whether a credential is stored. -/
def configured (b : Bool) : Response :=
  ok [("configured", some (.bool b))]

/-- The state of the service. -/
def health : Response :=
  ok [("status", some (.string "ok")), ("version", some (.string "0.1.0")),
    ("service", some (.string "manga-api"))]

/-- Says whether a page document is one. -/
def validatePage (r : PageRequest) : Response :=
  match Page.parse r.yaml with
  | .error e => failed (.ofMarkup e)
  | .ok page => ok [("valid", some (.bool true)), ("panel_count", some (.int page.panels.length))]

/-- Gives the prompt of a page. -/
def promptOfPage (r : PageRequest) : Response :=
  match Page.parse r.yaml with
  | .error e => failed (.ofMarkup e)
  | .ok page =>
    ok [("prompt", some (.string page.prompt)), ("panel_count", some (.int page.panels.length))]

/-- The answer with a generated page, and with where it was saved or why it was not. -/
def generated (occasion : Occasion) (page : Generation.GeneratedPage)
    (saved : Option (Except OutputError Path)) : Response :=
  ok [("id", some (.string occasion.id)),
    ("mime_type", some (.string page.image.mimeType)),
    ("data", some (.string page.image.data)),
    ("data_uri", some (.string page.image.dataUri)),
    ("file_name", some (.string (page.image.downloadName occasion.milliseconds))),
    ("saved_path", (saved.bind Except.toOption).map .string),
    ("save_error",
      match saved with
      | some (.error e) => some (.string e.message)
      | _ => none),
    ("references", some (.array (page.references.map Reference.Status.wire))),
    ("unmatched_characters", some (.array (page.unmatched.map .string)))]

/-- The answer to a request whose page was to be saved; there is none if the request broke off. -/
def saved (occasion : Occasion) (page : Generation.GeneratedPage)
    (done : Except OutputError Path) : Response :=
  match done with
  | .error .overflow => .closed
  | done => generated occasion page (some done)

/-- Generates a page, and saves it if that is asked for. -/
def generatePage (s : Service) (occasion : Occasion) (state : State)
    (request : Generation.GenerateRequest) : Response × State :=
  let store := Reference.Store.ofPlace state.files state.served s.references
  match Generation.run s.endpoint store state.files s.credentialPath request state.toExchange with
  | (.error e, x) => (failed e, { state with toExchange := x })
  | (.ok page, x) =>
    let state := { state with toExchange := x }
    if request.save then
      let fileName := page.image.downloadName occasion.milliseconds
      let session := resolveSession none s.session
      let (files, done) :=
        Output.save state.files s.outputRoot fileName session occasion.date page.image occasion.room
      (saved occasion page done, { state with files })
    else (generated occasion page none, state)

/-- The answer to an operation on the stored credential that leaves one or none. -/
def afterCredential (state : State) (stored : Bool) (done : FileTree × Except CredentialError Unit) :
    Response × State :=
  match done with
  | (files, .ok _) => (configured stored, { state with files })
  | (files, .error e) => (failed (.ofCredential e), { state with files })

/-- Answers a request on its route. -/
def answer (s : Service) (occasion : Occasion) (state : State) (request : Request) :
    Route → Response × State
  | .health => (health, state)
  | .credentialStatus =>
    match Credential.load state.files s.credentialPath with
    | .ok key => (configured key.isSome, state)
    | .error e => (failed (.ofCredential e), state)
  | .saveCredential =>
    match request.decode CredentialRequest.decoder with
    | .error r => (r.response (s.detail request), state)
    | .ok body =>
      afterCredential state true
        (Credential.save state.files s.credentialPath body.apiKey occasion.room)
  | .clearCredential =>
    afterCredential state false (Credential.clear state.files s.credentialPath occasion.room)
  | .examplePage => (ok [("yaml", some (.string Page.exampleDocument))], state)
  | .validatePage =>
    match request.decode PageRequest.decoder with
    | .error r => (r.response (s.detail request), state)
    | .ok body => (validatePage body, state)
  | .promptOfPage =>
    match request.decode PageRequest.decoder with
    | .error r => (r.response (s.detail request), state)
    | .ok body => (promptOfPage body, state)
  | .generatePage =>
    match request.decode Generation.GenerateRequest.decoder with
    | .error r => (r.response (s.detail request), state)
    | .ok body => generatePage s occasion state body

/-- Answers a request. -/
def handle (s : Service) (occasion : Occasion) (state : State) (request : Request) :
    Response × State :=
  match routesAt request.path with
  | [] => ({ status := 404 }, state)
  | routes =>
    let head := request.method = "HEAD".toList
    match routes.lookup (if head then "GET".toList else request.method) with
    | none => ({ status := 405, allow := some (methodsOf routes) }, state)
    | some route =>
      let (response, state) := s.answer occasion state request route
      (if head then { response with body := .empty } else response, state)

/-- Answers requests in order. -/
def serve (s : Service) (state : State) : List (Occasion × Request) → List Response × State
  | [] => ([], state)
  | (occasion, request) :: rest =>
    let (response, state) := s.handle occasion state request
    let (responses, state) := s.serve state rest
    (response :: responses, state)

end Service

end MangaPress
