/-
# How requests are answered

A request is answered on the route that its path and method lead to, if there is one. Only what can
be got has a head, so on a route with another method the answer is given as it is. From then on it
is enough to know what the body is read as.

A request for a page asks of servers what its run asks of them, and changes files only by saving.

Key definitions: `Route.method`, `Service.runOf`.
Key theorems: `handle_of_route`, `handle_of_method`, `state_of_no_route`, `state_of_route`,
`toExchange_generatePage`, `files_generatePage`, `calls_of_key`.
-/
import MangaPress.Proofs.Generation.Run
import MangaPress.Proofs.Service.Request

namespace MangaPress.Service

/-- The method of a route. -/
def Route.method : Route → Text
  | .health | .credentialStatus | .examplePage => "GET"
  | .saveCredential => "PUT"
  | .clearCredential => "DELETE"
  | .validatePage | .promptOfPage | .generatePage => "POST"

theorem method_of_mem_routesAt (path : Text) : ∀ entry ∈ routesAt path, entry.1 = entry.2.method := by
  unfold routesAt
  split_ifs <;> decide

variable {r : Request} {route : Route}

theorem method_of_route? (h : r.route? = some route) :
    (if r.method = "HEAD".toList then "GET".toList else r.method) = route.method := by
  obtain ⟨before, after, hroutes, -⟩ := List.lookup_eq_some_iff.mp h
  exact method_of_mem_routesAt r.path _ (hroutes ▸ List.mem_append_right _ List.mem_cons_self)

variable (s : Service) (occasion : Occasion) (state : State)

/-- On its route a request is answered as it is, or without the body. -/
theorem handle_of_route (h : r.route? = some route) : s.handle occasion state r =
      (if r.method = "HEAD".toList then
          { (s.answer occasion state r route).1 with body := .empty }
        else (s.answer occasion state r route).1,
        (s.answer occasion state r route).2) := by
  unfold Request.route? at h
  unfold handle
  cases hr : routesAt r.path with
  | nil =>
    rw [hr] at h
    cases h
  | cons entry routes =>
    rw [hr] at h
    dsimp only
    rw [h]

/-- Only what can be got has a head. -/
theorem handle_of_method (h : r.route? = some route) (hm : route.method ≠ "GET".toList) :
    s.handle occasion state r = s.answer occasion state r route := by
  have hhead : r.method ≠ "HEAD".toList := by
    intro hh
    have hmethod := method_of_route? h
    rw [if_pos hh] at hmethod
    exact hm hmethod.symm
  rw [handle_of_route s occasion state h, if_neg hhead]

theorem handle_of_get (h : r.route? = some route) (hm : r.method = "GET".toList) :
    s.handle occasion state r = s.answer occasion state r route := by
  rw [handle_of_route s occasion state h, if_neg (by rw [hm]; decide)]

/-- Without a route nothing is done. -/
theorem state_of_no_route (h : r.route? = none) : (s.handle occasion state r).2 = state := by
  unfold Request.route? at h
  unfold handle
  cases hr : routesAt r.path with
  | nil => rfl
  | cons entry routes =>
    rw [hr] at h
    dsimp only
    rw [h]

/-! ### What is answered on a route -/

theorem handle_saveCredential {body : CredentialRequest} (h : r.route? = some .saveCredential)
    (hread : r.decode CredentialRequest.decoder = .ok body) :
    s.handle occasion state r =
      afterCredential state true
        (Credential.save state.files s.credentialPath body.apiKey occasion.room) := by
  rw [handle_of_method s occasion state h (by decide)]
  unfold answer
  rw [hread]

theorem handle_saveCredential_of_error {e : Rejection} (h : r.route? = some .saveCredential)
    (hread : r.decode CredentialRequest.decoder = .error e) :
    s.handle occasion state r = (e.response (s.detail r), state) := by
  rw [handle_of_method s occasion state h (by decide)]
  unfold answer
  rw [hread]

theorem handle_clearCredential (h : r.route? = some .clearCredential) :
    s.handle occasion state r =
      afterCredential state false
        (Credential.clear state.files s.credentialPath occasion.room) := by
  rw [handle_of_method s occasion state h (by decide)]
  rfl

theorem handle_credentialStatus {stored : Option Text} (h : r.route? = some .credentialStatus)
    (hm : r.method = "GET".toList)
    (hload : Credential.load state.files s.credentialPath = .ok stored) :
    s.handle occasion state r = (configured stored.isSome, state) := by
  rw [handle_of_get s occasion state h hm]
  unfold answer
  rw [hload]

theorem handle_validatePage {body : PageRequest} (h : r.route? = some .validatePage)
    (hread : r.decode PageRequest.decoder = .ok body) :
    s.handle occasion state r = (validatePage body, state) := by
  rw [handle_of_method s occasion state h (by decide)]
  unfold answer
  rw [hread]

theorem handle_promptOfPage {body : PageRequest} (h : r.route? = some .promptOfPage)
    (hread : r.decode PageRequest.decoder = .ok body) :
    s.handle occasion state r = (promptOfPage body, state) := by
  rw [handle_of_method s occasion state h (by decide)]
  unfold answer
  rw [hread]

theorem handle_generatePage {request : Generation.GenerateRequest}
    (h : r.route? = some .generatePage)
    (hread : r.decode Generation.GenerateRequest.decoder = .ok request) :
    s.handle occasion state r = s.generatePage occasion state request := by
  rw [handle_of_method s occasion state h (by decide)]
  unfold answer
  rw [hread]

theorem handle_generatePage_of_error {e : Rejection} (h : r.route? = some .generatePage)
    (hread : r.decode Generation.GenerateRequest.decoder = .error e) :
    s.handle occasion state r = (e.response (s.detail r), state) := by
  rw [handle_of_method s occasion state h (by decide)]
  unfold answer
  rw [hread]

/-- On the other routes the state stays as it is. -/
theorem state_of_answer (r : Request) (hsave : route ≠ .saveCredential)
    (hclear : route ≠ .clearCredential) (hgenerate : route ≠ .generatePage) :
    (s.answer occasion state r route).2 = state := by
  cases route with
  | saveCredential => exact absurd rfl hsave
  | clearCredential => exact absurd rfl hclear
  | generatePage => exact absurd rfl hgenerate
  | health => rfl
  | examplePage => rfl
  | credentialStatus =>
    rw [answer]
    split <;> rfl
  | validatePage =>
    rw [answer]
    split <;> rfl
  | promptOfPage =>
    rw [answer]
    split <;> rfl

theorem state_of_route (h : r.route? = some route) (hsave : route ≠ .saveCredential)
    (hclear : route ≠ .clearCredential) (hgenerate : route ≠ .generatePage) :
    (s.handle occasion state r).2 = state := by
  rw [handle_of_route s occasion state h]
  exact state_of_answer s occasion state r hsave hclear hgenerate

/-! ### Requests for a page -/

section GeneratePage

variable (request : Generation.GenerateRequest)

/-- The run of a request for a page. -/
def runOf : Except Failure Generation.GeneratedPage × Generation.Exchange :=
  Generation.run s.endpoint (.ofPlace state.files state.served s.references) state.files
    s.credentialPath request state.toExchange

/-- What is asked of servers is what the run asks of them. -/
theorem toExchange_generatePage :
    (s.generatePage occasion state request).2.toExchange = (s.runOf state request).2 := by
  unfold generatePage runOf
  dsimp only
  cases Generation.run s.endpoint (.ofPlace state.files state.served s.references) state.files
    s.credentialPath request state.toExchange with
  | mk result x =>
    cases result with
    | error e => rfl
    | ok page =>
      dsimp only
      split <;> rfl

/-- The files change at most by saving an image, if the page is to be saved. -/
theorem files_generatePage :
    (s.generatePage occasion state request).2.files = state.files ∨
      request.save = true ∧ ∃ image : Image, (s.generatePage occasion state request).2.files =
        (Output.save state.files s.outputRoot (image.downloadName occasion.milliseconds)
          (resolveSession none s.session) occasion.date image occasion.room).1 := by
  unfold generatePage
  dsimp only
  cases Generation.run s.endpoint (.ofPlace state.files state.served s.references) state.files
    s.credentialPath request state.toExchange with
  | mk result x =>
    cases result with
    | error e => exact .inl rfl
    | ok page =>
      dsimp only
      cases request.save with
      | true => exact .inr ⟨rfl, page.image, rfl⟩
      | false => exact .inl rfl

/-- A run that fails is answered with its failure, and leaves the files. -/
theorem generatePage_of_error {e : Failure} {x : Generation.Exchange}
    (h : s.runOf state request = (.error e, x)) :
    s.generatePage occasion state request = (failed e, { state with toExchange := x }) := by
  unfold runOf at h
  unfold generatePage
  dsimp only
  rw [h]

theorem generatePage_of_unsaved {page : Generation.GeneratedPage} {x : Generation.Exchange}
    (h : s.runOf state request = (.ok page, x)) (hsave : request.save = false) :
    s.generatePage occasion state request =
      (generated occasion page none, { state with toExchange := x }) := by
  unfold runOf at h
  unfold generatePage
  dsimp only
  rw [h, hsave]
  rfl

theorem generatePage_of_save {page : Generation.GeneratedPage} {x : Generation.Exchange}
    {files : FileTree} {done : Except OutputError Path} (h : s.runOf state request = (.ok page, x))
    (hsave : request.save = true)
    (hdone : Output.save state.files s.outputRoot (page.image.downloadName occasion.milliseconds)
      (resolveSession none s.session) occasion.date page.image occasion.room = (files, done)) :
    s.generatePage occasion state request =
      (saved occasion page done, { state with toExchange := x, files }) := by
  unfold runOf at h
  unfold generatePage
  dsimp only
  rw [h, hsave]
  dsimp only
  rw [if_pos rfl, hdone]

end GeneratePage

/-- A request for a page that has a key and a page makes its call. -/
theorem calls_of_key {request : Generation.GenerateRequest} {url : Web.Url} {page : Page}
    {key : Text} (hroute : r.route? = some .generatePage)
    (hread : r.decode Generation.GenerateRequest.decoder = .ok request)
    (hurl : Web.Url.parse? s.endpoint.address = some url)
    (hpage : Page.parse request.yaml = .ok page)
    (hkey : Generation.resolveCredential state.files s.credentialPath request.apiKey = .ok key) :
    (s.handle occasion state r).2.calls =
      Generation.callFor (.ofPlace state.files state.served s.references) url key page ::
        state.calls := by
  rw [handle_generatePage s occasion state hroute hread, toExchange_generatePage, runOf,
    Generation.run_of_page _ _ _ _ _ _ hurl hkey hpage]
  exact Generation.Exchange.calls_post _ _

end MangaPress.Service
