/-
# What a missing image changes

The same request is run with two stores of reference images, with the same credential and the same
answers of the endpoint. Nothing that a store gives, or fails to give, changes whether a page is
generated, what the page is or how often the endpoint is called: the stores only decide which images
are sent beside the prompt, and what is told of them. A store that has more sends all that the other
one sends, in the same order, and more between.

Key definitions: `Reference.Store.ServedBy`, `Reference.Status.SameCharacter`,
`GeneratedPage.SameBut`, `Call.SameBut`, `Repeated.SameBut`, `Exchange.SameBut`.
Key theorems: `foundImages_sublist`, `run_sameBut`, `run_of_other_store`.
-/
import MangaPress.Proofs.Agree
import MangaPress.Proofs.Files.Change
import MangaPress.Proofs.Generation.Names
import MangaPress.Proofs.Reference.Loading
import Mathlib.Data.List.Forall2

namespace MangaPress

namespace Reference

/-- What one store has under a file name, the other one has as well. -/
def Store.ServedBy (store store' : Store) : Prop :=
  ∀ file content, store.content file = .ok content → store'.content file = .ok content

/-- A directory to which images are added still has all that it had. -/
theorem servedBy_ofDirectory {t t' : FileTree} (hwd : t'.workingDirectory = t.workingDirectory)
    (hkeep : ∀ l n, t.node? l = some n → t'.node? l = some n) (base : Path) :
    (Store.ofDirectory t base).ServedBy (Store.ofDirectory t' base) := by
  intro file content h
  unfold Store.ofDirectory at h ⊢
  dsimp only at h ⊢
  cases hb : t.bytesAt (Path.join base file) with
  | error e =>
    rw [hb] at h
    cases h
  | ok bytes =>
    have hplace : ∃ n,
        t.node? (FileTree.placeFrom t.workingDirectory (Path.join base file)) = some n := by
      obtain ⟨l, hl⟩ := FileTree.bytesAt_eq_ok_iff.mp hb
      have hlocation : l = FileTree.placeFrom t.workingDirectory (Path.join base file) :=
        FileTree.location_of_find hl
      rw [← hlocation]
      exact ⟨_, FileTree.node?_of_follow (FileTree.find_eq_ok_iff.mp hl).2.1⟩
    obtain ⟨n, hn⟩ := hplace
    have hsame : t'.bytesAt (Path.join base file) = .ok bytes :=
      FileTree.bytesAt_of_kept hwd (fun l => hkeep l .directory) ((hkeep _ n hn).trans hn.symm) hb
    rw [hsame]
    rw [hb] at h
    exact h

/-- What is told of the image of the same character. -/
structure Status.SameCharacter (s s' : Status) : Prop where
  name : s.name = s'.name
  fileName : s.fileName = s'.fileName

/-- An image that is loaded is loaded again. -/
structure Status.Covered (s s' : Status) : Prop extends s.SameCharacter s' where
  loaded : s.loaded = true → s' = s

variable {store store' : Store}

theorem Store.ServedBy.image? (h : store.ServedBy store') {name : Text} {image : Image}
    (hi : (loadOne store name).image? = some image) :
    (loadOne store' name).image? = some image := by
  obtain ⟨content, hcontent, himage⟩ := image?_loadOne.mp hi
  exact image?_loadOne.mpr ⟨content, h _ _ hcontent, himage⟩

theorem Store.ServedBy.covered (h : store.ServedBy store') (name : Text) :
    (loadOne store name).status.Covered (loadOne store' name).status where
  name := rfl
  fileName := rfl
  loaded := by
    intro hloaded
    obtain ⟨image, himage⟩ := Option.isSome_iff_exists.mp hloaded
    have houtcome : (loadOne store' name).outcome = (loadOne store name).outcome := by
      rw [image?_eq_some_iff.mp himage, image?_eq_some_iff.mp (h.image? himage)]
    have hentry : loadOne store' name = loadOne store name :=
      congrArg (Loaded.mk name) houtcome
    rw [hentry]

end Reference

namespace Generation

open Reference (Store Status)

/-! ### Pages, calls and traffic -/

/-- The same page but for what is told of the reference images, character by character. -/
structure GeneratedPage.SameBut (Q : Status → Status → Prop) (g g' : GeneratedPage) : Prop where
  image : g.image = g'.image
  prompt : g.prompt = g'.prompt
  unmatched : g.unmatched = g'.unmatched
  references : List.Forall₂ Q g.references g'.references

/-- The same call but for the images in it. -/
inductive Call.SameBut (R : List Image → List Image → Prop) : Call → Call → Prop where
  | same (c : Call) : Call.SameBut R c c
  | images {images images' : List Image} (url : Web.Url) (prompt : Text) (h : R images images') :
    Call.SameBut R
      { url, body := (userTurn (images.map imagePart ++ [textPart prompt])).compact }
      { url, body := (userTurn (images'.map imagePart ++ [textPart prompt])).compact }

/-- The same request but for the images in what is posted. -/
inductive Repeated.SameBut (R : List Image → List Image → Prop) : Web.Asked → Web.Asked → Prop where
  | same (asked : Web.Asked) : Repeated.SameBut R asked asked
  | posted (url : Web.Url) {c c' : Call} (h : Call.SameBut R c c') :
    Repeated.SameBut R { url, posted := some c.body } { url, posted := some c'.body }

/-- The same answers are left, and the calls and what followed them are the same but for the images
in them. -/
structure Exchange.SameBut (R : List Image → List Image → Prop) (x x' : Exchange) : Prop where
  answers : x.answers = x'.answers
  calls : List.Forall₂ (Call.SameBut R) x.calls x'.calls
  followed : List.Forall₂ (Repeated.SameBut R) x.followed x'.followed

variable {Q : Status → Status → Prop} {R : List Image → List Image → Prop} {x x' : Exchange}

theorem Exchange.SameBut.refl (x : Exchange) : x.SameBut R x :=
  ⟨rfl, List.forall₂_same.mpr fun c _ => .same c, List.forall₂_same.mpr fun a _ => .same a⟩

theorem Exchange.SameBut.lookUp (h : x.SameBut R x') (urls urls' : List Web.Url) :
    (x.lookUp urls).SameBut R (x'.lookUp urls') :=
  ⟨h.answers, h.calls, h.followed⟩

/-- An answer leads to the same place whatever was posted. -/
theorem Repeated.SameBut.after {asked asked' : Web.Asked} (h : Repeated.SameBut R asked asked')
    (answer : Web.Answer) :
    Web.Reaction.Related (Repeated.SameBut R) (asked.after answer) (asked'.after answer) := by
  cases h with
  | same =>
    cases asked.after answer with
    | take answer => exact .take answer
    | follow next => exact .follow (.same next)
  | posted url h =>
    cases answer with
    | lost => exact .take _
    | reply => exact .take _
    | redirect location status contentType body complete =>
      unfold Web.Asked.after
      dsimp only
      split
      · cases url.join location with
        | address url =>
          dsimp only
          split
          · exact .follow (.posted url h)
          · exact .follow (.same _)
        | foreign => exact .take _
        | unreadable => exact .take _
      · exact .take _

/-! ### The steps of a run -/

/-- Calls that differ in their images have the same answer. -/
theorem Exchange.SameBut.post (h : x.SameBut R x') {call call' : Call}
    (hcall : Call.SameBut R call call') :
    Both Eq (Exchange.SameBut R) (x.post call) (x'.post call') := by
  have hurl : call'.url = call.url := by cases hcall <;> rfl
  have hasked : Repeated.SameBut R { url := call.url, posted := some call.body }
      { url := call'.url, posted := some call'.body } := by
    rw [hurl]
    exact .posted call.url hcall
  have hpost := Exchange.post_related (fun ha => ha.after) h.answers h.followed call call' hasked
  generalize x.post call = z, x'.post call' = z' at hpost
  obtain ⟨hsame, hanswers, hfollowed, ⟨hcalls, hcalls'⟩, -, -⟩ := hpost
  refine ⟨hsame, hanswers, ?_, hfollowed⟩
  rw [hcalls, hcalls']
  exact .cons hcall h.calls

/-- What the endpoint answers does not depend on the images that it is sent. -/
theorem generate_sameBut (h : x.SameBut R x') {images images' : List Image} (hR : R images images')
    (endpoint : Endpoint) (prompt key : Text) :
    Both Eq (Exchange.SameBut R) (endpoint.generate images prompt key x)
      (endpoint.generate images' prompt key x') := by
  unfold Endpoint.generate Endpoint.call?
  cases Web.Url.parse? endpoint.address with
  | none => exact ⟨rfl, h⟩
  | some url =>
    have hpost := h.post (.images (url.addPair "key" key) prompt hR)
    dsimp only [Option.map_some]
    rw [requestBody_eq_userTurn, requestBody_eq_userTurn]
    generalize x.post _ = z, x'.post _ = z' at hpost
    obtain ⟨rfl, hafter⟩ := hpost
    exact ⟨rfl, hafter⟩

theorem forall₂_load {store store' : Store}
    (hQ : ∀ name, Q (Reference.loadOne store name).status (Reference.loadOne store' name).status)
    (names : List Text) :
    List.Forall₂ Q ((Reference.load store names).map Reference.Loaded.status)
      ((Reference.load store' names).map Reference.Loaded.status) := by
  induction names with
  | nil => exact .nil
  | cons name names ih => exact .cons (hQ name) ih

/-- Runs with two stores differ in nothing but what the stores give for the page. -/
theorem run_sameBut {store store' : Store} (endpoint : Endpoint) (files : FileTree) (path : Path)
    (request : GenerateRequest) (x : Exchange)
    (hQ : ∀ name, Q (Reference.loadOne store name).status (Reference.loadOne store' name).status)
    (hR : ∀ page, R (foundImages store page) (foundImages store' page)) :
    Both (Agree (GeneratedPage.SameBut Q)) (Exchange.SameBut R)
      (run endpoint store files path request x) (run endpoint store' files path request x) := by
  unfold run
  cases resolveCredential files path request.apiKey with
  | error e => exact ⟨.error e, .refl x⟩
  | ok key =>
    dsimp only
    cases Page.parse request.yaml with
    | error e => exact ⟨.error _, .refl x⟩
    | ok page =>
      dsimp only
      have hgenerate := generate_sameBut ((Exchange.SameBut.refl x).lookUp
        (Reference.requests store page.characterNames)
        (Reference.requests store' page.characterNames)) (hR page) endpoint page.prompt key
      rw [images_load, images_load]
      generalize endpoint.generate (foundImages store page) _ _ _ = z,
        endpoint.generate (foundImages store' page) _ _ _ = z' at hgenerate
      obtain @⟨result, _, _, _, rfl, hafter⟩ := hgenerate
      cases result with
      | error e => exact ⟨.error _, hafter⟩
      | ok image => exact ⟨.ok ⟨rfl, rfl, rfl, forall₂_load hQ page.characterNames⟩, hafter⟩

/-! ### A store that has more -/

theorem filterMap_sublist {α β : Type} {f g : α → Option β}
    (h : ∀ a b, f a = some b → g a = some b) (l : List α) :
    (l.filterMap f).Sublist (l.filterMap g) := by
  induction l with
  | nil => exact .slnil
  | cons a l ih =>
    cases hf : f a with
    | some b =>
      rw [List.filterMap_cons_some hf, List.filterMap_cons_some (h a b hf)]
      exact ih.cons_cons b
    | none =>
      rw [List.filterMap_cons_none hf]
      exact ih.trans ((List.sublist_cons_self a l).filterMap g)

/-- A store that has more gives the same images in the same order, and more between. -/
theorem foundImages_sublist {store store' : Store} (h : store.ServedBy store') (page : Page) :
    (foundImages store page).Sublist (foundImages store' page) := by
  apply filterMap_sublist
  intro c image himage
  exact h.image? himage

/-- **Missing images only reduce coverage.** With any two stores of reference images the same request
comes to the same: the same failure, or a page with the same image, prompt and unmatched names, and
with the same characters in what is told of the reference images. As many calls are made, with the
same address, credential and prompt; they differ in their images at most. If one store has all that
the other one has, the images sent with the other one are a sublist of those sent with it, and what is
loaded with the other one is loaded with it. -/
theorem run_of_other_store (endpoint : Endpoint) (files : FileTree) (path : Path)
    (request : GenerateRequest) (x : Exchange) (store store' : Store) :
    Both (Agree (GeneratedPage.SameBut Status.SameCharacter)) (Exchange.SameBut fun _ _ => True)
        (run endpoint store files path request x) (run endpoint store' files path request x) ∧
      (store.ServedBy store' →
        Both (Agree (GeneratedPage.SameBut Status.Covered)) (Exchange.SameBut List.Sublist)
          (run endpoint store files path request x)
          (run endpoint store' files path request x)) := by
  constructor
  · exact run_sameBut endpoint files path request x (fun _ => ⟨rfl, rfl⟩) (fun _ => trivial)
  · intro h
    exact run_sameBut endpoint files path request x h.covered (foundImages_sublist h)

/-- A directory for reference images, without any. -/
def bareDirectory : FileTree :=
  { entries := [(["characters"], .directory)] }

/-- The place of the image of the one recurring character of the haunted page. -/
def tenPlace : Location :=
  ["characters", "TEN_ORIGIN.png"]

/-- The directory with this image. -/
def tenDirectory : FileTree :=
  bareDirectory.put tenPlace (.file [65, 66, 67])

/-- An image that is added to a directory is sent as well, and nothing else changes. -/
theorem coverage_of_added_image :
    let result (t : FileTree) := run (Endpoint.of defaultBase defaultModel)
      (.ofDirectory t "characters") {} "key.json" { yaml := hauntedPage, apiKey := some "key" }
      { answers := [imageAnswer] }
    ((Store.ofDirectory bareDirectory "characters").content "TEN_ORIGIN.png").isOk = false ∧
    ((Store.ofDirectory tenDirectory "characters").content "TEN_ORIGIN.png").isOk = true ∧
    Both (Agree (GeneratedPage.SameBut Status.Covered)) (Exchange.SameBut List.Sublist)
      (result bareDirectory) (result tenDirectory) := by
  intro result
  have hfree : bareDirectory.node? tenPlace = none := by decide +kernel
  have hkeep : ∀ l n, bareDirectory.node? l = some n → tenDirectory.node? l = some n := by
    intro l n hn
    have hne : l ≠ tenPlace := by
      rintro rfl
      rw [hfree] at hn
      cases hn
    exact (bareDirectory.node?_put_of_ne hne _).trans hn
  have hserved : (Store.ofDirectory bareDirectory "characters").ServedBy
      (Store.ofDirectory tenDirectory "characters") := Reference.servedBy_ofDirectory (by rfl) hkeep _
  exact ⟨by decide +kernel, by decide +kernel, (run_of_other_store _ _ _ _ _ _ _).2 hserved⟩

end Generation

end MangaPress
