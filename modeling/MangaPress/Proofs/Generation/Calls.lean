/-
# What a run asks of servers

A run makes one call to the endpoint or none. It makes none, and no request for a reference image
either, exactly when there is no credential or the page cannot be read; the credential comes first.
What the call carries is read off the request itself: its query as a form, and its body as a turn of
the user.

A call is not repeated, whatever comes back. The requests that follow it are those that the answers
themselves demand by pointing elsewhere, at most ten. Such an answer can have the body of the call
posted once more (`posts_of_sentAgain`); without one, a run posts once at the most.

Key definition: `Call.Carries`.
Key theorems: `callFor_carries`, `run_calls_once`.
-/
import MangaPress.Proofs.Generation.Coverage
import MangaPress.Proofs.Generation.RequestBody
import MangaPress.Proofs.Generation.Target

namespace MangaPress.Generation

/-- The call goes to the address, its query read as a form has the key as one more pair, and its body
is one turn of the user with the images in order and then the prompt. -/
structure Call.Carries (call : Call) (url : Web.Url) (key : Text) (images : List Image)
    (prompt : Text) : Prop where
  place : call.url.SamePlace url
  query : call.url.pairs = url.pairs ++ [(some "key".toList, some key)]
  body : (Json.Document.ofSource (Json.Source.ofBytes (Text.encode call.body))).decode
      Turn.contentsDecoder =
    .ok [{ role := "user", parts := images.map .image ++ [.text prompt] }]

theorem callFor_carries (store : Reference.Store) (url : Web.Url) (key : Text) (page : Page) :
    (callFor store url key page).Carries url key (foundImages store page) page.prompt where
  place := by
    unfold callFor Web.Url.addPair
    cases url.query with
    | none => exact ⟨rfl, rfl, rfl⟩
    | some query => cases query <;> exact ⟨rfl, rfl, rfl⟩
  query := url.pairs_addPair "key" key
  body := decode_requestBody (foundImages store page) page.prompt

section Run

variable (endpoint : Endpoint) (store : Reference.Store) (files : FileTree) (path : Path)
  (request : GenerateRequest) (x : Exchange)

/-- A run posts once at the most if no answer has anything posted again. -/
theorem posts_of_run {url : Web.Url} (ha : Web.Url.parse? endpoint.address = some url)
    (hquiet : ∀ a ∈ x.answers, ¬ a.RepeatsPost) :
    (run endpoint store files path request x).2.posts ≤ x.posts + 1 := by
  cases hr : resolveCredential files path request.apiKey with
  | error e =>
    rw [run_of_credential_error endpoint store files path request x hr]
    exact Nat.le_succ _
  | ok key =>
    cases hp : Page.parse request.yaml with
    | error e =>
      rw [run_of_markup_error endpoint store files path request x hr hp]
      exact Nat.le_succ _
    | ok page =>
      rw [run_of_page endpoint store files path request x ha hr hp]
      exact (Exchange.posts_post (x := x.lookUp (Reference.requests store page.characterNames)) hquiet
        (callFor store url key page)).le

/-- **A run makes one call or none.** It makes none, and no other request either, exactly when there is
no credential or no page, whose failure comes second. The call that is made otherwise goes to the
endpoint by the key, bare and not empty, and holds in one turn of the user the images that were found,
in order, and then the prompt, which is also the one that is given out. What follows the call is a
chain of requests from the one place to which an answer points to the next, of no more than ten, and
all that is posted on the way is the body of the call. So where no answer has something posted again,
a run posts once at the most. -/
theorem run_calls_once {url : Web.Url} (ha : Web.Url.parse? endpoint.address = some url) :
    ((run endpoint store files path request x).2.calls = x.calls ↔
      (∀ key, ¬ IsKey files path request.apiKey key) ∨
        ∃ e, Page.parse request.yaml = .error e) ∧
    (∀ e, resolveCredential files path request.apiKey = .error e →
      run endpoint store files path request x = (.error e, x)) ∧
    (∀ key e, IsKey files path request.apiKey key → Page.parse request.yaml = .error e →
      run endpoint store files path request x = (.error (.ofMarkup e), x)) ∧
    (∀ key page, IsKey files path request.apiKey key → Page.parse request.yaml = .ok page →
      key ≠ [] ∧ key.Bare ∧
      (∃ call trail, call.Carries url key (foundImages store page) page.prompt ∧
        (run endpoint store files path request x).2.calls = call :: x.calls ∧
        (run endpoint store files path request x).2.lookups =
          (Reference.requests store page.characterNames).reverse ++ x.lookups ∧
        (run endpoint store files path request x).2.followed = trail.reverse ++ x.followed ∧
        trail.length ≤ 10 ∧
        Web.Chain { url := call.url, posted := some call.body } x.answers.next.1
          x.answers.next.2 trail ∧
        ∀ asked ∈ trail, asked.posted = none ∨ asked.posted = some call.body) ∧
      ∀ generated, (run endpoint store files path request x).1 = .ok generated →
        generated.prompt = page.prompt) ∧
    ((∀ a ∈ x.answers, ¬ a.RepeatsPost) →
      (run endpoint store files path request x).2.posts ≤ x.posts + 1) := by
  have hcalls := run_calls_cases endpoint store files path request x ha
  refine ⟨⟨fun h => ?_, fun hnone => ?_⟩, fun e => ?_, fun key e hk hp => ?_,
    fun key page hk hp => ⟨hk.ne_nil, hk.bare, ?_, fun generated hg => ?_⟩, ?_⟩
  · rcases hcalls with ⟨hnone, -⟩ | ⟨_, _, -, -, hone⟩
    · exact hnone
    · rw [hone] at h
      exact absurd h (List.cons_ne_self _ _)
  · rcases hcalls with ⟨-, h⟩ | ⟨key, page, hk, hp, -⟩
    · exact h
    · rcases hnone with hn | ⟨e, he⟩
      · exact absurd hk (hn key)
      · rw [hp] at he
        cases he
  · exact run_of_credential_error endpoint store files path request x
  · exact run_of_markup_error endpoint store files path request x
      (resolveCredential_eq_ok_iff.mpr hk) hp
  · rw [run_of_page endpoint store files path request x ha (resolveCredential_eq_ok_iff.mpr hk) hp]
    obtain ⟨trail, left, hpost, hlength, hchain⟩ := Exchange.post_chain
      (x.lookUp (Reference.requests store page.characterNames)) (callFor store url key page)
    exact ⟨_, trail, callFor_carries store url key page, Exchange.calls_post _ _,
      Exchange.lookups_post _ _, congrArg Exchange.followed hpost, hlength, hchain, hchain.posted⟩
  · exact prompt_of_run endpoint store files path request x ha
      (resolveCredential_eq_ok_iff.mpr hk) hp hg
  · exact posts_of_run endpoint store files path request x ha

end Run

/-- The address of the standard endpoint. -/
def standardUrl : Web.Url where
  secure := true
  authority := "generativelanguage.googleapis.com"
  segments := ["v1beta", "models", "gemini-2.5-flash-image-preview:generateContent"]

theorem parse?_standardUrl :
    Web.Url.parse? (Endpoint.of defaultBase defaultModel).address = some standardUrl := by
  decide +kernel

/-- The haunted page has one recurring character. -/
theorem exists_hauntedPage :
    ∃ page, Page.parse hauntedPage = .ok page ∧ page.characterNames = ["Ten".toList] :=
  ⟨_, parse_hauntedPage, rfl⟩

/-- The call for the haunted page has the key without the spaces around it, the one image of its
store and the prompt. -/
theorem call_of_hauntedPage :
    ∃ page call, Page.parse hauntedPage = .ok page ∧
      (run (Endpoint.of defaultBase defaultModel) (.ofDirectory tenDirectory "characters") {}
        "key.json" { yaml := hauntedPage, apiKey := some " key " }
        { answers := [imageAnswer] }).2.calls = [call] ∧
      call.url.pairs = [(some "key".toList, some "key".toList)] ∧
      (Json.Document.ofSource (Json.Source.ofBytes (Text.encode call.body))).decode
          Turn.contentsDecoder =
        .ok [{ role := "user", parts := [.image { mimeType := "image/png", data := "QUJD" },
          .text page.prompt] }] := by
  obtain ⟨page, hpage, hnames⟩ := exists_hauntedPage
  have hkey : IsKey {} "key.json" (some " key ".toList) "key".toList :=
    .own rfl (by decide +kernel)
  have himages : foundImages (.ofDirectory tenDirectory "characters") page =
      [{ mimeType := "image/png", data := "QUJD" }] := by
    rw [← images_load, hnames]
    decide +kernel
  obtain ⟨-, -, ⟨call, trail, hcarries, hcalls, -⟩, -⟩ :=
    (run_calls_once (Endpoint.of defaultBase defaultModel) (.ofDirectory tenDirectory "characters") {}
      "key.json" { yaml := hauntedPage, apiKey := some " key " } { answers := [imageAnswer] }
      parse?_standardUrl).2.2.2.1 _ page hkey hpage
  have hbody := hcarries.body
  rw [himages] at hbody
  exact ⟨page, call, hpage, hcalls, hcarries.query, hbody⟩

/-- An answer that only names another path has the call posted there as well, and so more than once. -/
theorem posts_of_sentAgain :
    1 < (run (Endpoint.of defaultBase defaultModel) (.ofDirectory tenDirectory "characters") {}
      "key.json" { yaml := hauntedPage, apiKey := some "key" }
      { answers := [.redirect "/again" 307 none [] true, imageAnswer] }).2.posts := by
  obtain ⟨page, hpage, -⟩ := exists_hauntedPage
  have hkey : resolveCredential {} "key.json" (some "key".toList) = .ok "key".toList :=
    resolveCredential_eq_ok_iff.mpr (.own rfl (by decide +kernel))
  have hjoin : (standardUrl.addPair "key" "key").join "/again" =
      .address { standardUrl with segments := ["again"] } := by decide +kernel
  have hfollow : ∀ posted, (Web.Asked.mk (standardUrl.addPair "key" "key") posted).after
      (.redirect "/again" 307 none [] true) =
        .follow { url := { standardUrl with segments := ["again"] }, posted } := by
    intro posted
    rw [Web.Asked.after, hjoin]
    rfl
  have hrun := run_of_page (Endpoint.of defaultBase defaultModel)
    (.ofDirectory tenDirectory "characters") {} "key.json"
    { yaml := hauntedPage, apiKey := some "key" }
    { answers := [.redirect "/again" 307 none [] true, imageAnswer] } parse?_standardUrl hkey hpage
  rw [hrun]
  exact Exchange.posts_post_of_follow
    (Exchange.lookUp { answers := [.redirect "/again" 307 none [] true, imageAnswer] } _)
    (callFor _ standardUrl "key" page) (hfollow _) rfl

end MangaPress.Generation
