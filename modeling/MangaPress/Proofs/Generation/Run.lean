/-
# The steps of a run

The key is the request's own one if that is not blank, and else the stored one. Without a key or a
page a run ends where it is, and the key comes first. With both, the images that the store has are
looked up and one call is made, whose answer decides.

Key definitions: `Generation.IsKey`, `Generation.userTurn`, `Generation.foundImages`,
`Generation.callFor`.
Key theorems: `Generation.resolveCredential_eq_ok_iff`, `Generation.run_of_page`,
`Generation.run_calls_cases`.
-/
import MangaPress.Generation.Run
import MangaPress.Proofs.Credential.Key
import MangaPress.Proofs.Generation.Exchange

namespace MangaPress.Generation

/-! ### The credential -/

/-- What a request goes by as its key: its own key if that is not blank, and else the stored one,
both without white space at their ends. -/
inductive IsKey (files : FileTree) (path : Path) (explicit : Option Text) : Text → Prop where
  | own {key : Text} (given : explicit = some key) (filled : Text.trim key ≠ []) :
    IsKey files path explicit (Text.trim key)
  | stored {entries : Entries} {key : Text}
    (blank : ∀ own, explicit = some own → Text.trim own = [])
    (read : Credential.readEntries files path = .ok entries)
    (found : entries.lookup Credential.entryName = some key) (filled : Text.trim key ≠ []) :
    IsKey files path explicit (Text.trim key)

theorem IsKey.ne_nil {files : FileTree} {path : Path} {explicit : Option Text} {key : Text} :
    IsKey files path explicit key → key ≠ []
  | .own _ filled => filled
  | .stored _ _ _ filled => filled

theorem IsKey.bare {files : FileTree} {path : Path} {explicit : Option Text} {key : Text} :
    IsKey files path explicit key → key.Bare
  | .own _ _ => Text.trim_bare _
  | .stored _ _ _ _ => Text.trim_bare _

theorem resolveCredential_eq_ok_iff {files : FileTree} {path : Path} {explicit : Option Text}
    {key : Text} : resolveCredential files path explicit = .ok key ↔
      IsKey files path explicit key := by
  constructor
  · intro h
    unfold resolveCredential at h
    cases he : explicit.bind Credential.trimmed? with
    | some own =>
      rw [he] at h
      obtain ⟨given, hgiven, hown⟩ := Option.bind_eq_some_iff.mp he
      obtain ⟨rfl, hfilled⟩ := Credential.trimmed?_eq_some_iff.mp hown
      cases h
      exact .own hgiven hfilled
    | none =>
      rw [he] at h
      have hblank : ∀ own, explicit = some own → Text.trim own = [] := fun own ho =>
        Credential.trimmed?_eq_none_iff.mp (Option.bind_eq_none_iff.mp he own ho)
      cases hl : Credential.load files path with
      | error e =>
        rw [hl] at h
        cases h
      | ok loaded =>
        rw [hl] at h
        cases loaded with
        | none => cases h
        | some loaded =>
          cases h
          obtain ⟨entries, hread, hbind⟩ := Credential.load_eq_ok_iff.mp hl
          obtain ⟨stored, hfound, htrim⟩ := Option.bind_eq_some_iff.mp hbind
          obtain ⟨rfl, hfilled⟩ := Credential.trimmed?_eq_some_iff.mp htrim
          exact .stored hblank hread hfound hfilled
  · rintro (⟨hgiven, hfilled⟩ | ⟨hblank, hread, hfound, hfilled⟩)
    · unfold resolveCredential
      rw [hgiven, Option.bind_some, Credential.trimmed?_eq_some_iff.mpr ⟨rfl, hfilled⟩]
    · have hnone : explicit.bind Credential.trimmed? = none :=
        Option.bind_eq_none_iff.mpr fun own ho =>
          Credential.trimmed?_eq_none_iff.mpr (hblank own ho)
      have hload := Credential.load_eq_ok_iff.mpr ⟨_, hread, rfl⟩
      rw [hfound, Option.bind_some, Credential.trimmed?_eq_some_iff.mpr ⟨rfl, hfilled⟩] at hload
      unfold resolveCredential
      rw [hnone, hload]

/-- Without a key of its own a request goes by the stored one. -/
theorem resolveCredential_of_blank {files : FileTree} {path : Path} {explicit stored : Option Text}
    (hblank : ∀ own, explicit = some own → Text.trim own = [])
    (hload : Credential.load files path = .ok stored) :
    resolveCredential files path explicit =
      stored.elim (.error (.validation "API key is not configured")) .ok := by
  have hnone : explicit.bind Credential.trimmed? = none :=
    Option.bind_eq_none_iff.mpr fun own ho => Credential.trimmed?_eq_none_iff.mpr (hblank own ho)
  unfold resolveCredential
  rw [hnone, hload]
  cases stored <;> rfl

/-! ### The call -/

/-- A request with one turn of the user. -/
def userTurn (parts : List Json.Value) : Json.Value :=
  .object [("contents", .array [.object [("role", .string "user"), ("parts", .array parts)]])]

/-- The part with an image. -/
def imagePart (i : Image) : Json.Value :=
  .object [("inlineData",
    .object [("mimeType", .string i.mimeType), ("data", .string i.data)])]

/-- The part with a text. -/
def textPart (t : Text) : Json.Value :=
  .object [("text", .string t)]

/-- The reference images of a page that its store has, in the order of the characters. -/
def foundImages (store : Reference.Store) (page : Page) : List Image :=
  page.characters.filterMap fun c =>
    ((store.content (Reference.fileName c.name)).bind Reference.imageOf).toOption

theorem requestBody_eq_userTurn (images : List Image) (prompt : Text) :
    requestBody images prompt = userTurn (images.map imagePart ++ [textPart prompt]) := rfl

theorem images_load (store : Reference.Store) (page : Page) :
    Reference.Loaded.images (Reference.load store page.characterNames) =
      foundImages store page := by
  unfold Reference.Loaded.images Reference.load Page.characterNames foundImages
  rw [List.map_map, List.filterMap_map]
  rfl

/-! ### The run -/

section Run

variable (endpoint : Endpoint) (store : Reference.Store) (files : FileTree) (path : Path)
  (request : GenerateRequest) (x : Exchange)

theorem run_of_credential_error {e : Failure}
    (h : resolveCredential files path request.apiKey = .error e) :
    run endpoint store files path request x = (.error e, x) := by
  unfold run
  rw [h]

theorem run_of_markup_error {key : Text} {e : MarkupError}
    (h : resolveCredential files path request.apiKey = .ok key)
    (hp : Page.parse request.yaml = .error e) :
    run endpoint store files path request x = (.error (.ofMarkup e), x) := by
  unfold run
  rw [h]
  dsimp only
  rw [hp]

/-- The call that a page makes for. -/
def callFor (url : Web.Url) (key : Text) (page : Page) : Call where
  url := url.addPair "key" key
  body := (userTurn ((foundImages store page).map imagePart ++ [textPart page.prompt])).compact

/-- With a key and a page, one call is made, and its answer decides. -/
theorem run_of_page {url : Web.Url} {key : Text} {page : Page}
    (ha : Web.Url.parse? endpoint.address = some url)
    (h : resolveCredential files path request.apiKey = .ok key)
    (hp : Page.parse request.yaml = .ok page) :
    run endpoint store files path request x =
      let (answer, after) :=
        (x.lookUp (Reference.requests store page.characterNames)).post (callFor store url key page)
      (match interpret answer with
        | .error e => .error (.generation e)
        | .ok image => .ok {
            image
            prompt := page.prompt
            references := (Reference.load store page.characterNames).map Reference.Loaded.status
            unmatched := page.unmatchedNames }, after) := by
  have hc : endpoint.call? (foundImages store page) page.prompt key =
      some (callFor store url key page) := by
    unfold Endpoint.call? callFor
    rw [ha, requestBody_eq_userTurn]
    rfl
  unfold run
  rw [h]
  dsimp only
  rw [hp]
  dsimp only
  rw [images_load, Endpoint.generate, hc]
  dsimp only
  generalize Exchange.post _ _ = z
  cases interpret z.1 <;> rfl

/-- A run without a key or a page makes no call, and one with both makes one. -/
theorem run_calls_cases {url : Web.Url} (ha : Web.Url.parse? endpoint.address = some url) :
    ((∀ key, ¬ IsKey files path request.apiKey key) ∨
        ∃ e, Page.parse request.yaml = .error e) ∧
      (run endpoint store files path request x).2.calls = x.calls ∨
    (∃ key page, IsKey files path request.apiKey key ∧ Page.parse request.yaml = .ok page ∧
      (run endpoint store files path request x).2.calls =
        callFor store url key page :: x.calls) := by
  cases hr : resolveCredential files path request.apiKey with
  | error e =>
    refine .inl ⟨.inl fun key hk => ?_, ?_⟩
    · rw [resolveCredential_eq_ok_iff.mpr hk] at hr
      cases hr
    · rw [run_of_credential_error endpoint store files path request x hr]
  | ok key =>
    have hk := resolveCredential_eq_ok_iff.mp hr
    cases hp : Page.parse request.yaml with
    | error e =>
      refine .inl ⟨.inr ⟨e, rfl⟩, ?_⟩
      rw [run_of_markup_error endpoint store files path request x hr hp]
    | ok page =>
      refine .inr ⟨key, page, hk, rfl, ?_⟩
      rw [run_of_page endpoint store files path request x ha hr hp]
      exact Exchange.calls_post _ _

/-- The prompt that is given out is the one that was sent. -/
theorem prompt_of_run {url : Web.Url} {key : Text} {page : Page} {generated : GeneratedPage}
    (ha : Web.Url.parse? endpoint.address = some url)
    (h : resolveCredential files path request.apiKey = .ok key)
    (hp : Page.parse request.yaml = .ok page)
    (hg : (run endpoint store files path request x).1 = .ok generated) :
    generated.prompt = page.prompt := by
  rw [run_of_page endpoint store files path request x ha h hp] at hg
  dsimp only at hg
  split at hg
  · cases hg
  · cases hg
    rfl

end Run

end MangaPress.Generation
