/-
# The credential in the query

The credential goes out as the one pair of the query, under the name `key`. What stands for it has no
sign that would end the value, begin another pair or a fragment, or belong to the path, and a reader
of forms gets back the credential itself, so two credentials never make for the same target.

Key definition: `Web.Url.pairs`.
Key theorems: `Generation.call?_of_address`, `Web.Url.pairs_addPair`, `Web.Url.target_addPair`,
`Generation.credential_in_query`.
-/
import MangaPress.Proofs.Generation.Exchange
import MangaPress.Proofs.Web.Url

namespace MangaPress

namespace Web

theorem Form.pairs_append (query query' : Text) :
    Form.pairs (query ++ '&' :: query') = Form.pairs query ++ Form.pairs query' := by
  simp only [Form.pairs, Text.splitOn_eq_splitOn, List.splitOn_append_cons_self, List.filter_append,
    List.map_append]

namespace Url

/-- The query of the address, read as a form. -/
def pairs (u : Url) : List (Option Text × Option Text) :=
  Form.pairs (u.query.getD [])

/-- A reader of forms finds one more pair at the end. -/
theorem pairs_addPair (u : Url) (name value : Text) :
    (u.addPair name value).pairs = u.pairs ++ [(some name, some value)] := by
  unfold addPair pairs
  cases hq : u.query with
  | none => exact Form.pairs_pair name value
  | some query =>
    cases query with
    | nil => exact Form.pairs_pair name value
    | cons c query =>
      dsimp only [Option.getD_some]
      rw [Form.pairs_append, Form.pairs_pair]

theorem addPair_of_query_none {u : Url} (h : u.query = none) (name value : Text) :
    u.addPair name value = { u with query := some (Form.pair name value) } := by
  rw [addPair, h]

theorem target_addPair {u : Url} (h : u.query = none) (name value : Text) :
    (u.addPair name value).target = u.path ++ '?' :: Form.pair name value := by
  rw [addPair_of_query_none h]
  rfl

/-- The first question mark of the target ends the path. -/
theorem splitOnce_target_addPair {t : Text} {u : Url} (hu : parse? t = some u)
    (h : u.query = none) (name value : Text) :
    Text.splitOnce '?' (u.addPair name value).target = some (u.path, Form.pair name value) := by
  have hpath : '?' ∉ u.path := fun hmem => (pathOnly_path hu _ hmem).1 rfl
  rw [target_addPair h]
  exact Text.splitOnce_append hpath _

theorem no_fragment_in_target_addPair {t : Text} {u : Url} (hu : parse? t = some u)
    (h : u.query = none) (name value : Text) : '#' ∉ (u.addPair name value).target := by
  have hpath : '#' ∉ u.path := fun hmem => (pathOnly_path hu _ hmem).2 rfl
  have hname : '#' ∉ Form.encode name := (Form.encoded_encode name).not_mem (by decide)
  have hvalue : '#' ∉ Form.encode value := (Form.encoded_encode value).not_mem (by decide)
  rw [target_addPair h]
  simp [Form.pair, hpath, hname, hvalue]

theorem target_addPair_inj {u : Url} (h : u.query = none) {name value value' : Text} :
    (u.addPair name value).target = (u.addPair name value').target ↔ value = value' := by
  constructor
  · intro he
    rw [target_addPair h, target_addPair h] at he
    have hpair : Form.pair name value = Form.pair name value' :=
      (List.cons.inj (List.append_cancel_left he)).2
    have hvalue : Form.encode value = Form.encode value' :=
      (List.cons.inj (List.append_cancel_left hpair)).2
    exact Form.encode_injective hvalue
  · exact fun he => he ▸ rfl

end Url

end Web

namespace Generation

theorem call?_of_address {e : Endpoint} {url : Web.Url} (ha : Web.Url.parse? e.address = some url)
    (images : List Image) (prompt credential : Text) :
    e.call? images prompt credential = some {
      url := url.addPair "key" credential, body := (requestBody images prompt).compact } := by
  rw [Endpoint.call?, ha]
  rfl

theorem calls_of_generate {e : Endpoint} {images : List Image} {prompt credential : Text} {call : Call}
    (h : e.call? images prompt credential = some call) (x : Exchange) :
    (e.generate images prompt credential x).2.calls = call :: x.calls := by
  rw [Endpoint.generate, h]
  exact Exchange.calls_post x call

/-- **The credential survives the query.** For an endpoint whose address has no query a call is made
whatever the credential is. It goes to the server and to the path of the endpoint. The query, which
is what follows the first question mark of the target, is `key=` and an encoded value, and no fragment
follows. Read as a form it is one pair, of the name `key` and the credential. Of two calls to the
endpoint the targets are equal exactly if the credentials are. -/
theorem credential_in_query {e : Endpoint} {url : Web.Url} (ha : Web.Url.parse? e.address = some url)
    (hq : url.query = none) (images : List Image) (prompt credential : Text) :
    ∃ call, e.call? images prompt credential = some call ∧
      (∀ x, (e.generate images prompt credential x).2.calls = call :: x.calls) ∧
      call.url.secure = url.secure ∧ call.url.authority = url.authority ∧
      call.url.segments = url.segments ∧
      (∃ query value, call.url.target = url.path ++ '?' :: query ∧
        Text.splitOnce '?' call.url.target = some (url.path, query) ∧ '#' ∉ call.url.target ∧
        query = "key=".toList ++ value ∧ Web.Form.Encoded value ∧
        Web.Form.decode? value = some credential ∧
        Web.Form.pairs query = [(some "key".toList, some credential)]) ∧
      ∀ images' prompt' credential' call', e.call? images' prompt' credential' = some call' →
        (call'.url.target = call.url.target ↔ credential' = credential) := by
  have hcall := call?_of_address ha images prompt credential
  have hkey : Web.Form.pair "key" credential = "key=".toList ++ Web.Form.encode credential := by
    have hname : Web.Form.encode "key" = "key".toList := by decide
    rw [Web.Form.pair, hname]
    rfl
  have hplace : (url.addPair "key" credential).secure = url.secure ∧
      (url.addPair "key" credential).authority = url.authority ∧
      (url.addPair "key" credential).segments = url.segments := by
    rw [Web.Url.addPair_of_query_none hq]
    exact ⟨rfl, rfl, rfl⟩
  refine ⟨_, hcall, calls_of_generate hcall, hplace.1, hplace.2.1, hplace.2.2,
    ⟨_, _, Web.Url.target_addPair hq "key" credential,
      Web.Url.splitOnce_target_addPair ha hq "key" credential,
      Web.Url.no_fragment_in_target_addPair ha hq "key" credential, hkey,
      Web.Form.encoded_encode credential, Web.Form.decode?_encode credential,
      Web.Form.pairs_pair "key" credential⟩, ?_⟩
  intro images' prompt' credential' call' hcall'
  rw [call?_of_address ha] at hcall'
  cases hcall'
  exact Web.Url.target_addPair_inj hq

/-- A credential made of the signs that mean something in an address. -/
theorem signs_in_query :
    Web.Url.parse? (Endpoint.of defaultBase defaultModel).address = some {
      secure := true
      authority := "generativelanguage.googleapis.com"
      segments := ["v1beta", "models", "gemini-2.5-flash-image-preview:generateContent"] } ∧
    ∃ call query, (Endpoint.of defaultBase defaultModel).call? [] "a page" " +%&=#?/\u00e9" = some call ∧
      call.url.target =
        "/v1beta/models/gemini-2.5-flash-image-preview:generateContent?".toList ++ query ∧
      Web.Form.pairs query = [(some "key".toList, some " +%&=#?/\u00e9".toList)] := by
  have ha : Web.Url.parse? (Endpoint.of defaultBase defaultModel).address = some {
      secure := true
      authority := "generativelanguage.googleapis.com"
      segments := ["v1beta", "models", "gemini-2.5-flash-image-preview:generateContent"] } := by
    decide +kernel
  obtain ⟨call, hcall, -, -, -, -, ⟨query, value, htarget, -, -, -, -, -, hpairs⟩, -⟩ :=
    credential_in_query ha rfl [] "a page" " +%&=#?/\u00e9"
  exact ⟨ha, call, query, hcall, htarget, hpairs⟩

end Generation

end MangaPress
