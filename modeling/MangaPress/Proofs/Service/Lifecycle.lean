/-
# The life of a stored key

What the service knows of keys is told by what it was asked and answered: the key of the last
request that stored one is kept until it is removed (`Kept`). The credential file stands for just
that, after any requests, as long as it was missing at first and could be made (`Standing`). So the
status, and the key that a page is asked for with, can be read off the requests and answers so far.

Pages are saved in the same tree. If any are to be saved, the service must not save them on the way
to the credential file, nor make a folder for them at its place (`PagesApart`). And a disk that runs
full while a key is stored may leave a file that is cut short. Where one of the three conditions does
not hold, the file need not say what was stored (`credential_not_told`).

Key definitions: `Since`, `Stores`, `Clears`, `Kept`, `Saves`, `Service.PagesApart`, `Standing`.
Key theorems: `Standing.handle`, `Standing.serve`, `credential_lifecycle`, `pagesApart_of_first`.
-/
import MangaPress.Proofs.Credential.Keeping
import MangaPress.Proofs.Output.Folder
import MangaPress.Proofs.Service.Saving

namespace MangaPress.Service

open Credential (Filled Keeps)
open FileTree (Absent Along placeFrom)
open Generation (GenerateRequest)

/-! ### What was stored -/

/-- Something happened, and what came after it was all of a kind. -/
def Since {α : Type} (happened after : α → Prop) (past : List α) : Prop :=
  ∃ earlier a later, past = earlier ++ a :: later ∧ happened a ∧ ∀ b ∈ later, after b

theorem since_concat {α : Type} {happened after : α → Prop} {past : List α} {a : α} :
    Since happened after (past ++ [a]) ↔ happened a ∨ after a ∧ Since happened after past := by
  constructor
  · rintro ⟨earlier, b, later, hpast, hb, hlater⟩
    rcases List.eq_nil_or_concat later with rfl | ⟨later, c, rfl⟩
    · obtain ⟨-, hab⟩ := List.append_inj' hpast rfl
      cases hab
      exact .inl hb
    · rw [List.concat_eq_append] at hpast hlater
      rw [← List.cons_append, ← List.append_assoc] at hpast
      obtain ⟨rfl, hac⟩ := List.append_inj' hpast rfl
      cases hac
      exact .inr ⟨hlater a (List.mem_append_right _ List.mem_cons_self), earlier, b, later, rfl, hb,
        fun d hd => hlater d (List.mem_append_left _ hd)⟩
  · rintro (ha | ⟨hafter, earlier, b, later, rfl, hb, hlater⟩)
    · exact ⟨past, a, [], rfl, ha, nofun⟩
    · refine ⟨earlier, b, later ++ [a], by simp, hb, fun c hc => ?_⟩
      rcases List.mem_append.mp hc with hc | hc
      · exact hlater c hc
      · rw [List.mem_singleton.mp hc]
        exact hafter

theorem not_since_nil {α : Type} {happened after : α → Prop} : ¬ Since happened after [] := by
  rintro ⟨earlier, a, later, hpast, -⟩
  exact absurd hpast.symm (List.append_ne_nil_of_right_ne_nil _ (List.cons_ne_nil _ _))

/-- The requests of a run with their answers, in order. -/
def history (s : Service) (state : State) (requests : List (Occasion × Request)) :
    List (Request × Response) :=
  (requests.map Prod.snd).zip (s.serve state requests).1

/-- A request to store a key succeeded, and this is the key. -/
def Stores (key : Text) (x : Request × Response) : Prop :=
  x.1.route? = some .saveCredential ∧ x.2.status = 200 ∧
    ∃ body, x.1.decode CredentialRequest.decoder = .ok body ∧ Text.trim body.apiKey = key

/-- The request was to remove the key. -/
def Clears (x : Request × Response) : Prop :=
  x.1.route? = some .clearCredential

/-- The request is for a page that is to be saved. -/
def Saves (r : Request) : Prop :=
  r.route? = some .generatePage ∧
    ∃ request, r.decode GenerateRequest.decoder = .ok request ∧ request.save = true

/-- This key was stored last, and not removed since. -/
def Kept (past : List (Request × Response)) (key : Text) : Prop :=
  Since (Stores key) (fun x => ¬ Clears x ∧ ∀ other, ¬ Stores other x) past

theorem Stores.unique {key key' : Text} {x : Request × Response} (h : Stores key x)
    (h' : Stores key' x) : key = key' := by
  obtain ⟨-, -, body, hbody, rfl⟩ := h
  obtain ⟨-, -, body', hbody', rfl⟩ := h'
  rw [hbody] at hbody'
  cases hbody'
  rfl

theorem Stores.not_clears {key : Text} {x : Request × Response} (h : Stores key x) : ¬ Clears x := by
  intro hc
  cases h.1.symm.trans hc

/-- Some key is kept if one was stored and none removed since. -/
theorem exists_kept_iff (past : List (Request × Response)) :
    (∃ key, Kept past key) ↔ Since (fun x => ∃ key, Stores key x) (fun x => ¬ Clears x) past := by
  induction past using List.reverseRecOn with
  | nil => exact iff_of_false (fun ⟨_, h⟩ => not_since_nil h) not_since_nil
  | append_singleton past x ih =>
    rw [since_concat, ← ih]
    constructor
    · rintro ⟨key, h⟩
      rcases since_concat.mp h with hx | ⟨hx, hpast⟩
      · exact .inl ⟨key, hx⟩
      · exact .inr ⟨hx.1, key, hpast⟩
    · rintro (⟨key, hx⟩ | ⟨hx, key, hpast⟩)
      · exact ⟨key, since_concat.mpr (.inl hx)⟩
      · by_cases hs : ∃ other, Stores other x
        · obtain ⟨other, hother⟩ := hs
          exact ⟨other, since_concat.mpr (.inl hother)⟩
        · exact ⟨key, since_concat.mpr (.inr ⟨⟨hx, not_exists.mp hs⟩, hpast⟩)⟩

/-! ### What stays -/

/-- Pages are not saved on the way to the credential file, and none of their folders is made at its
place, seen from a working directory. -/
def PagesApart (s : Service) (wd : Location) : Prop :=
  ∀ date folder, Output.IsFolder s.outputRoot (resolveSession none s.session) date folder →
    ¬ Along wd folder (Path.names folder).length (placeFrom wd s.credentialPath) ∧
    ∀ (image : Image) (milliseconds : Int),
      ¬ Along wd s.credentialPath (Path.names s.credentialPath).length
        (placeFrom wd (Path.join folder (image.downloadName milliseconds)))

/-- The credential file says what was stored, seen from a working directory. -/
structure Standing (s : Service) (wd : Location) (past : List (Request × Response))
    (files : FileTree) : Prop where
  workingDirectory : files.workingDirectory = wd
  keeps : ∃ stored, Keeps files s.credentialPath stored ∧ ∀ key, stored = some key ↔ Kept past key

variable {s : Service} {wd : Location} {past : List (Request × Response)} {files files' : FileTree}

theorem standing_start (h : Absent files s.credentialPath) :
    Standing s files.workingDirectory [] files :=
  ⟨rfl, none, .of_absent h, fun _ => iff_of_false nofun not_since_nil⟩

/-- Saving a page leaves the stored key. -/
theorem PagesApart.keeps (happart : s.PagesApart files.workingDirectory) {stored : Option Text}
    (h : Keeps files s.credentialPath stored) (image : Image) (milliseconds : Int) (date : Date)
    (room : Room) :
    Keeps (Output.save files s.outputRoot (image.downloadName milliseconds)
      (resolveSession none s.session) date image room).1 s.credentialPath stored := by
  obtain ⟨folder, opened, hfolder, hopened, hcases⟩ := Output.save_cases files s.outputRoot
    (image.downloadName milliseconds) (resolveSession none s.session) date image room
  obtain ⟨hfolders, hfile⟩ := happart date folder hfolder
  have hkeeps := h.of_extends hopened hfolders
  rcases hcases with ⟨e, he⟩ | ⟨bytes, l, -, hl, hsaved⟩
  · rw [he]
    exact hkeeps
  · rw [hsaved]
    refine hkeeps.put ?_ hl.node?_ne
    rw [hl.eq_placeFrom, hopened.workingDirectory]
    exact hfile image milliseconds

namespace Standing

/-- A request that neither stores nor removes a key leaves the stored one. -/
theorem of_kept (h : Standing s wd past files) {x : Request × Response}
    (hx : ¬ Clears x ∧ ∀ key, ¬ Stores key x) (hwd : files'.workingDirectory = wd)
    (hkeeps : ∀ stored, Keeps files s.credentialPath stored → Keeps files' s.credentialPath stored) :
    Standing s wd (past ++ [x]) files' := by
  obtain ⟨stored, hstored, hpast⟩ := h.keeps
  refine ⟨hwd, stored, hkeeps stored hstored, fun key => ?_⟩
  rw [hpast]
  exact (since_concat.trans (or_iff_right (hx.2 key))).trans (and_iff_right hx) |>.symm

/-- Where the same is kept, the same is loaded. -/
theorem load_eq {past' : List (Request × Response)} (h : Standing s wd past files)
    (h' : Standing s wd past' files') (hsame : ∀ key, Kept past' key ↔ Kept past key) :
    Credential.load files' s.credentialPath = Credential.load files s.credentialPath := by
  obtain ⟨stored, hstored, hpast⟩ := h.keeps
  obtain ⟨stored', hstored', hpast'⟩ := h'.keeps
  have heq : stored' = stored := Option.ext fun key => by
    rw [hpast', hpast, hsame]
  rw [hstored.load, hstored'.load, heq]

theorem not_stores_of_route {r : Request} {response : Response} {route : Route}
    (h : r.route? = some route) (hroute : route ≠ .saveCredential) (key : Text) :
    ¬ Stores key (r, response) := by
  intro hs
  exact hroute (Option.some.inj (h.symm.trans hs.1))

theorem not_clears_of_route {r : Request} {response : Response} {route : Route}
    (h : r.route? = some route) (hroute : route ≠ .clearCredential) : ¬ Clears (r, response) := by
  intro hc
  exact hroute (Option.some.inj (h.symm.trans hc))

theorem status_failed (e : Failure) : (failed e).status ≠ 200 := by
  cases e <;> exact nofun

theorem afterCredential_of_ok {state : State} {done : FileTree × Except CredentialError Unit}
    (h : done.2 = .ok ()) (stored : Bool) :
    afterCredential state stored done = (configured stored, { state with files := done.1 }) := by
  obtain ⟨files, _⟩ := done
  cases h
  rfl

theorem afterCredential_of_error {state : State} {done : FileTree × Except CredentialError Unit}
    {e : CredentialError} (h : done.2 = .error e) (stored : Bool) :
    afterCredential state stored done =
      (failed (.ofCredential e), { state with files := done.1 }) := by
  obtain ⟨files, _⟩ := done
  cases h
  rfl

section Step

variable {state : State} {r : Request} (occasion : Occasion)

/-- A request to store a key makes it the stored one, or fails and leaves the stored one. -/
theorem saveCredential (hroom : r.RoomForKey occasion) (h : Standing s wd past state.files)
    (hroute : r.route? = some .saveCredential) :
    Standing s wd (past ++ [(r, (s.handle occasion state r).1)])
      (s.handle occasion state r).2.files := by
  have hclears : ∀ response, ¬ Clears (r, response) := fun response =>
    not_clears_of_route hroute nofun
  cases hdecode : r.decode CredentialRequest.decoder with
  | error rejection =>
    rw [handle_saveCredential_of_error s occasion state hroute hdecode]
    refine h.of_kept ⟨hclears _, fun key hs => ?_⟩ h.workingDirectory fun _ => id
    obtain ⟨-, -, body, hbody, -⟩ := hs
    rw [hdecode] at hbody
    cases hbody
  | ok body =>
    rw [handle_saveCredential s occasion state hroute hdecode, hroom (.inl hroute)]
    have hwd : ∀ key, (Credential.save state.files s.credentialPath key).1.workingDirectory = wd :=
      fun key => (Credential.workingDirectory_save _ _ key _).trans h.workingDirectory
    by_cases hfilled : Filled body.apiKey
    · obtain ⟨stored, hstored, hpast⟩ := h.keeps
      rcases hstored.save hfilled with ⟨hdone, hkeeps⟩ | ⟨e, hdone, hkeeps⟩
      · rw [afterCredential_of_ok hdone]
        have hstores : Stores (Text.trim body.apiKey) (r, configured true) :=
          ⟨hroute, rfl, body, hdecode, rfl⟩
        refine ⟨hwd _, _, hkeeps, fun key => Iff.trans ⟨?_, ?_⟩ since_concat.symm⟩
        · rintro hkey
          cases hkey
          exact .inl hstores
        · rintro (hkey | ⟨⟨-, hnone⟩, -⟩)
          · rw [hstores.unique hkey]
          · exact absurd hstores (hnone _)
      · rw [afterCredential_of_error hdone]
        refine h.of_kept ⟨hclears _, fun key hs => status_failed _ hs.2.1⟩ (hwd _) ?_
        intro stored' hstored'
        obtain rfl : stored' = stored :=
          Except.ok.inj (hstored'.load.symm.trans hstored.load)
        exact hkeeps
    · have hnone := Credential.trimmed?_eq_none_iff.mpr (not_not.mp hfilled)
      rw [Credential.save, hnone]
      exact h.of_kept ⟨hclears _, fun key hs => status_failed _ hs.2.1⟩ h.workingDirectory
        fun _ => id

/-- A request to remove the key leaves none. -/
theorem clearCredential (hroom : r.RoomForKey occasion) (h : Standing s wd past state.files)
    (hroute : r.route? = some .clearCredential) :
    Standing s wd (past ++ [(r, (s.handle occasion state r).1)])
      (s.handle occasion state r).2.files := by
  rw [handle_clearCredential s occasion state hroute, hroom (.inr hroute)]
  obtain ⟨stored, hstored, -⟩ := h.keeps
  obtain ⟨hdone, hkeeps⟩ := hstored.clear
  have hwd := (Credential.workingDirectory_clear state.files s.credentialPath .ample).trans
    h.workingDirectory
  rw [afterCredential_of_ok hdone]
  refine ⟨hwd, none, hkeeps, fun key => iff_of_false nofun fun hkept => ?_⟩
  rcases since_concat.mp hkept with hs | ⟨⟨hclears, -⟩, -⟩
  · exact hs.not_clears hroute
  · exact hclears hroute

/-- A request for a page leaves the stored key, even if the page is saved. -/
theorem generatePage (happart : Saves r → s.PagesApart wd) (h : Standing s wd past state.files)
    (hroute : r.route? = some .generatePage) :
    Standing s wd (past ++ [(r, (s.handle occasion state r).1)])
      (s.handle occasion state r).2.files := by
  have hneither : ∀ response, ¬ Clears (r, response) ∧ ∀ key, ¬ Stores key (r, response) :=
    fun response => ⟨not_clears_of_route hroute nofun, not_stores_of_route hroute nofun⟩
  cases hread : r.decode GenerateRequest.decoder with
  | error rejection =>
    rw [handle_generatePage_of_error s occasion state hroute hread]
    exact h.of_kept (hneither _) h.workingDirectory fun _ => id
  | ok request =>
    rw [handle_generatePage s occasion state hroute hread]
    obtain rfl := h.workingDirectory
    rcases files_generatePage s occasion state request with hsame | ⟨hsave, image, hsaved⟩
    · rw [hsame]
      exact h.of_kept (hneither _) rfl fun _ => id
    · rw [hsaved]
      exact h.of_kept (hneither _) (Output.workingDirectory_save ..)
        fun stored hstored => (happart ⟨hroute, request, hread, hsave⟩).keeps hstored _ _ _ _

/-- **Step**: whatever the request, the credential file says what was stored. -/
theorem handle (r : Request) (happart : Saves r → s.PagesApart wd) (hroom : r.RoomForKey occasion)
    (h : Standing s wd past state.files) :
    Standing s wd (past ++ [(r, (s.handle occasion state r).1)])
      (s.handle occasion state r).2.files := by
  cases hroute : r.route? with
  | none =>
    rw [state_of_no_route s occasion state hroute]
    refine h.of_kept ⟨fun hc => ?_, fun key hs => ?_⟩ h.workingDirectory fun _ => id
    · cases hroute.symm.trans hc
    · cases hroute.symm.trans hs.1
  | some route =>
    by_cases hsave : route = .saveCredential
    · exact h.saveCredential occasion hroom (hsave ▸ hroute)
    by_cases hclear : route = .clearCredential
    · exact h.clearCredential occasion hroom (hclear ▸ hroute)
    by_cases hgenerate : route = .generatePage
    · exact h.generatePage occasion happart (hgenerate ▸ hroute)
    rw [state_of_route s occasion state hroute hsave hclear hgenerate]
    exact h.of_kept ⟨not_clears_of_route hroute hclear, not_stores_of_route hroute hsave⟩
      h.workingDirectory fun _ => id

end Step

/-- **Run**: by induction on the requests. -/
theorem serve : ∀ (requests : List (Occasion × Request)) {past : List (Request × Response)}
    {state : State}, (∀ x ∈ requests, Saves x.2 → s.PagesApart wd) →
    (∀ x ∈ requests, x.2.RoomForKey x.1) → Standing s wd past state.files →
    Standing s wd (past ++ s.history state requests) (s.serve state requests).2.files
  | [], past, state, _, _, h => by
    show Standing s wd (past ++ []) state.files
    rw [List.append_nil]
    exact h
  | (occasion, r) :: rest, past, state, happart, hroom, h => by
    have hnext := h.handle occasion r (happart _ List.mem_cons_self) (hroom _ List.mem_cons_self)
    have hrest := serve rest (fun x hx => happart x (List.mem_cons_of_mem _ hx))
      (fun x hx => hroom x (List.mem_cons_of_mem _ hx)) hnext
    rw [List.append_assoc] at hrest
    exact hrest

/-! ### The next request -/

section Next

variable {state : State} {r : Request} (occasion : Occasion)

/-- The status is that a key was stored, and none removed since. -/
theorem status (h : Standing s wd past state.files) (hroute : r.route? = some .credentialStatus)
    (hget : r.method = "GET".toList) :
    ∃ b, s.handle occasion state r = (configured b, state) ∧
      (b = true ↔ Since (fun x => ∃ key, Stores key x) (fun x => ¬ Clears x) past) := by
  obtain ⟨stored, hstored, hpast⟩ := h.keeps
  refine ⟨stored.isSome, handle_credentialStatus s occasion state hroute hget hstored.load, ?_⟩
  rw [← exists_kept_iff, Option.isSome_iff_exists]
  exact exists_congr hpast

variable {request : GenerateRequest}

/-- Without a key of its own, and with none stored, a request for a page is refused. -/
theorem generate_of_none (h : Standing s wd past state.files)
    (hroute : r.route? = some .generatePage)
    (hread : r.decode GenerateRequest.decoder = .ok request)
    (hblank : ∀ own, request.apiKey = some own → Text.trim own = [])
    (hnone : ∀ key, ¬ Kept past key) :
    s.handle occasion state r = (failed (.validation "API key is not configured"), state) := by
  obtain ⟨stored, hstored, hpast⟩ := h.keeps
  obtain rfl : stored = none :=
    Option.eq_none_iff_forall_ne_some.mpr fun key hk => hnone key ((hpast key).mp hk)
  have hkey := Generation.resolveCredential_of_blank hblank hstored.load
  rw [handle_generatePage s occasion state hroute hread]
  exact generatePage_of_error s occasion state request
    (Generation.run_of_credential_error _ _ _ _ _ _ hkey)

end Next

end Standing

/-! ### After any requests -/

/-- A request for a page that has a key and a page makes one more call, and it has the key. -/
theorem call_of_key {occasion : Occasion} {state : State} {r : Request} {request : GenerateRequest}
    {url : Web.Url} {page : Page} {key : Text} (hroute : r.route? = some .generatePage)
    (hread : r.decode GenerateRequest.decoder = .ok request)
    (hurl : Web.Url.parse? s.endpoint.address = some url) (hpage : Page.parse request.yaml = .ok page)
    (hkey : Generation.resolveCredential state.files s.credentialPath request.apiKey = .ok key) :
    ∃ call : Generation.Call, call.Carries url key (Generation.foundImages
        (.ofPlace state.files state.served s.references) page) page.prompt ∧
      (s.handle occasion state r).2.calls = call :: state.calls :=
  ⟨_, Generation.callFor_carries _ url key page,
    calls_of_key s occasion state hroute hread hurl hpage hkey⟩

/-- **The service goes by what it was told of keys.** Begin where the credential file is missing and can
be made, and let any requests be answered, by a service that saves pages elsewhere if any are to be
saved, with room on the disk whenever a key is stored or removed. Then the status says that a key is
configured iff one was stored and none removed since. A request for a page without a key of its own
makes its call with the key that was stored last and not removed since, and is refused without asking
anything of anyone if there is none. One with a key of its own makes its call with that, trimmed, and
leaves the stored key. A blank key is refused and changes nothing. -/
theorem credential_lifecycle (s : Service) {start now : State} {requests : List (Occasion × Request)}
    {past : List (Request × Response)} (habsent : Absent start.files s.credentialPath)
    (hpast : s.history start requests = past) (hnow : (s.serve start requests).2 = now)
    (occasion : Occasion) (r : Request)
    (happart : ∀ x ∈ (occasion, r) :: requests, Saves x.2 →
      s.PagesApart start.files.workingDirectory)
    (hroom : ∀ x ∈ (occasion, r) :: requests, x.2.RoomForKey x.1) :
    (r.route? = some .credentialStatus → r.method = "GET".toList →
      ∃ b, s.handle occasion now r = (configured b, now) ∧
        (b = true ↔ Since (fun x => ∃ key, Stores key x) (fun x => ¬ Clears x) past)) ∧
    (∀ request, r.route? = some .generatePage → r.decode GenerateRequest.decoder = .ok request →
      (∀ own, request.apiKey = some own → Text.trim own = []) →
      (∀ url page key, Web.Url.parse? s.endpoint.address = some url →
        Page.parse request.yaml = .ok page → Kept past key →
        ∃ call : Generation.Call, call.Carries url key (Generation.foundImages
            (.ofPlace now.files now.served s.references) page) page.prompt ∧
          (s.handle occasion now r).2.calls = call :: now.calls) ∧
      ((∀ key, ¬ Kept past key) →
        s.handle occasion now r = (failed (.validation "API key is not configured"), now))) ∧
    (∀ request own, r.route? = some .generatePage → r.decode GenerateRequest.decoder = .ok request →
      request.apiKey = some own → Text.trim own ≠ [] →
      (∀ url page, Web.Url.parse? s.endpoint.address = some url →
        Page.parse request.yaml = .ok page →
        ∃ call : Generation.Call, call.Carries url (Text.trim own) (Generation.foundImages
            (.ofPlace now.files now.served s.references) page) page.prompt ∧
          (s.handle occasion now r).2.calls = call :: now.calls) ∧
      Credential.load (s.handle occasion now r).2.files s.credentialPath =
        Credential.load now.files s.credentialPath ∧
      ∀ key, Kept (past ++ [(r, (s.handle occasion now r).1)]) key ↔ Kept past key) ∧
    ∀ body, r.route? = some .saveCredential → r.decode CredentialRequest.decoder = .ok body →
      Text.trim body.apiKey = [] →
      s.handle occasion now r = (failed (.validation "API key must not be empty"), now) := by
  have h : Standing s start.files.workingDirectory past now.files := by
    rw [← hpast, ← hnow]
    exact (standing_start habsent).serve requests
      (fun x hx => happart x (List.mem_cons_of_mem _ hx))
      fun x hx => hroom x (List.mem_cons_of_mem _ hx)
  refine ⟨fun hroute hget => h.status occasion hroute hget, fun request hroute hread hblank => ?_,
    fun request own hroute hread hown hfilled => ?_, fun body hroute hread hblank => ?_⟩
  · refine ⟨fun url page key hurl hpage hkept => ?_, h.generate_of_none occasion hroute hread hblank⟩
    obtain ⟨stored, hstored, hkeeps⟩ := h.keeps
    obtain rfl := (hkeeps key).mpr hkept
    exact call_of_key hroute hread hurl hpage
      (Generation.resolveCredential_of_blank hblank hstored.load)
  · have hkey : Generation.resolveCredential now.files s.credentialPath request.apiKey =
        .ok (Text.trim own) :=
      Generation.resolveCredential_eq_ok_iff.mpr (.own hown hfilled)
    have hsame : ∀ key, Kept (past ++ [(r, (s.handle occasion now r).1)]) key ↔ Kept past key := by
      intro key
      refine (since_concat.trans (or_iff_right ?_)).trans (and_iff_right ⟨?_, ?_⟩)
      · exact Standing.not_stores_of_route hroute nofun key
      · exact Standing.not_clears_of_route hroute nofun
      · exact Standing.not_stores_of_route hroute nofun
    have hnext := h.handle occasion r (happart _ List.mem_cons_self) (hroom _ List.mem_cons_self)
    exact ⟨fun url page hurl hpage => call_of_key hroute hread hurl hpage hkey,
      h.load_eq hnext hsame, hsame⟩
  · have hnone := Credential.trimmed?_eq_none_iff.mpr hblank
    rw [handle_saveCredential s occasion now hroute hread, Credential.save, hnone]
    rfl

/-! ### Services that save pages elsewhere -/

/-- A path and a place whose names begin with different ones do not meet. -/
theorem not_along_of_first {p q : Path} {a b : Text} {as bs : List Text}
    (hp : Path.names p = a :: as) (hq : Path.names q = b :: bs) (hab : a ≠ b)
    (habs : Path.isAbsolute p = Path.isAbsolute q) (hup : ∀ name ∈ a :: as, name ≠ ['.', '.'])
    (hup' : ∀ name ∈ b :: bs, name ≠ ['.', '.']) (wd : Location) (n : Nat) :
    ¬ Along wd p n (placeFrom wd q) := by
  rintro ⟨m, -, hplace⟩
  rw [FileTree.placeFrom_firstNames, FileTree.placeFrom, hp, hq, habs,
    FileTree.walk_of_plain hup',
    FileTree.walk_of_plain fun name hn => hup name (List.mem_of_mem_take hn)] at hplace
  have hnames := List.append_cancel_left hplace
  cases m with
  | zero => cases hnames
  | succ m => exact hab (List.cons.inj hnames).1.symm

/-- Pages and the credential file do not meet below different directories of the same one. -/
theorem pagesApart_of_first {a b : Text} {as bs : List Text}
    (hroot : Path.names s.outputRoot = a :: as) (hcredential : Path.names s.credentialPath = b :: bs)
    (hab : a ≠ b) (habs : Path.isAbsolute s.outputRoot = Path.isAbsolute s.credentialPath)
    (hup : ∀ name ∈ a :: as, name ≠ ['.', '.']) (hup' : ∀ name ∈ b :: bs, name ≠ ['.', '.'])
    (hsession : Output.StaysBelow (resolveSession none s.session))
    (wd : Location) : s.PagesApart wd := by
  intro date folder hfolder
  obtain ⟨habsolute, folders, hfolders, hall⟩ := hfolder.names_eq hsession
  generalize hnames : [date.monthFolder, date.dayFolder] ++ folders = names at hall
  rw [hroot, List.cons_append] at hall
  have hbelow : ∀ name ∈ a :: (as ++ names), name ≠ ['.', '.'] := by
    intro name hn
    rw [← List.cons_append, ← hnames] at hn
    rcases List.mem_append.mp hn with hn | hn
    · exact hup name hn
    · rcases List.mem_append.mp hn with hday | hfolder
      · exact (date.isName_folders name hday).ne_up
      · exact (hfolders.isName hsession name hfolder).ne_up
  refine ⟨not_along_of_first hall hcredential hab (habsolute.trans habs) hbelow hup' wd _,
    fun image milliseconds => ?_⟩
  have hfile := image.isName_downloadName milliseconds
  have hpath : Path.names (Path.join folder (image.downloadName milliseconds)) =
      a :: (as ++ names ++ [image.downloadName milliseconds]) := by
    rw [Path.names_join_of_isName folder hfile, hall, List.cons_append]
  refine not_along_of_first hcredential hpath hab.symm ?_ hup' ?_ wd _
  · rw [Path.isAbsolute_join folder hfile.noSlash, habsolute, habs]
  · intro name hn
    rw [← List.cons_append] at hn
    rcases List.mem_append.mp hn with hn | hn
    · exact hbelow name hn
    · rw [List.mem_singleton.mp hn]
      exact hfile.ne_up

theorem standard_pagesApart (wd : Location) : standard.PagesApart wd := by
  have hroot : Path.names standard.outputRoot = ["output".toList] := by decide +kernel
  have hcredential : Path.names standard.credentialPath =
      [".manga".toList, "credentials.json".toList] := by decide +kernel
  have hsession : Output.StaysBelow (resolveSession none standard.session) := by
    intro name h
    cases h
  exact pagesApart_of_first hroot hcredential (by decide) (by decide) (by decide) (by decide)
    hsession wd

/-- A key is stored. -/
def storing : List (Occasion × Request) :=
  [(default, .withKey "PUT" "/api/v1/credential" [] [] " red ")]

/-- What is left then. -/
def afterStoring : State :=
  (standard.serve secluded storing).2

/-- A page is asked for with a blank key. -/
def asking : Request :=
  .withKey "POST" "/api/v1/pages/generate" [("yaml", .string onePanel)] [] " "

/-- The call is made with the stored key, which is read in its query. -/
theorem calls_of_storedKey :
    ∃ call : Generation.Call, (standard.handle default afterStoring asking).2.calls = [call] ∧
      call.url.pairs = [(some "key".toList, some "red".toList)] := by
  have habsent : Absent secluded.files standard.credentialPath := {
    admitted := ⟨by decide +kernel, by decide +kernel, by decide +kernel⟩
    short := by decide +kernel
    noFile := fun n _ content h => by
      unfold FileTree.node? at h
      split at h <;> cases h
    free := by decide +kernel
    apart := by decide +kernel }
  have hsome : (Page.parse onePanel).toOption.isSome = true := by decide +kernel
  obtain ⟨page, hpage⟩ := Option.isSome_iff_exists.mp hsome
  have hread : asking.decode GenerateRequest.decoder =
      .ok { yaml := onePanel, apiKey := some " " } := eq_ok_of_toOption (by decide +kernel)
  have hblank : ∀ own, some " ".toList = some own → Text.trim own = [] := by
    rintro own ⟨⟩
    decide +kernel
  have hkept : Kept (standard.history secluded storing) "red" := by
    refine ⟨[], _, [], rfl, ⟨by decide +kernel, by decide +kernel, { apiKey := " red " }, ?_, ?_⟩,
      nofun⟩
    · exact eq_ok_of_toOption (by decide +kernel)
    · decide +kernel
  have hcalls : afterStoring.calls = [] := by decide +kernel
  have happart : ∀ x ∈ (default, asking) :: storing, Saves x.2 →
      standard.PagesApart secluded.files.workingDirectory := fun _ _ _ => standard_pagesApart _
  have hroom : ∀ x ∈ (default, asking) :: storing, x.2.RoomForKey x.1 := by
    intro x hx _
    rcases List.mem_cons.mp hx with rfl | hx
    · rfl
    · rw [List.mem_singleton.mp hx]
      rfl
  obtain ⟨call, hcarries, hone⟩ :=
    ((credential_lifecycle standard habsent rfl rfl default asking happart hroom).2.1 _
      (by decide +kernel) hread hblank).1 _ page _ Generation.parse?_standardUrl
        (eq_ok_of_toOption hpage) hkept
  exact ⟨call, hone.trans (congrArg (call :: ·) hcalls), hcarries.query⟩

/-! ### Without the conditions -/

/-- The status is asked for. -/
def askingStatus : Request where
  method := "GET"
  target := "/api/v1/credential"

/-- A directory stands in the place of the credential file. -/
def blocked : State :=
  { secluded with
    files := { entries := [
      ([".manga", "credentials.json"].map String.toList, .directory), ([".manga".toList], .directory)] } }

/-- A service that keeps the credential file where the pages of a month are saved. -/
def misplaced : Service :=
  { standard with credentialPath := "output/2025-11" }

/-- A key is stored, then there is no room for another one, and then a page is asked for without any. -/
def storeOnFullDisk : List (Occasion × Request) :=
  storing ++ [({ (default : Occasion) with room := .bytes 0 },
    .withKey "PUT" "/api/v1/credential" [] [] "blue"), (default, asking)]

/-- Without the conditions the file does not say what was stored. If a directory is in its place, or a
page was saved there, a page that is asked for without a key is not refused for that, and neither is
the status given; if the disk was full, the key that was stored before is gone. -/
theorem credential_not_told :
    (standard.serve blocked [(default, askingStatus), (default, asking)]).1.map Response.status =
        [500, 500] ∧
      (misplaced.serve imageToCome
        [({ (default : Occasion) with date := ⟨2025, 11, 2⟩ }, savedPage),
          (default, askingStatus), (default, asking)]).1.map Response.status = [200, 500, 500] ∧
      (standard.serve secluded storeOnFullDisk).1.map Response.status = [200, 500, 400] := by
  decide +kernel

end MangaPress.Service
