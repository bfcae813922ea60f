/-
# What becomes of a generated image

An image that the endpoint gave is in the answer whatever becomes of the attempt to save it, as long
as a number is left for it. Where the answer names a path, the bytes of the image are in the file at
that path; where it says why the image was not saved, no file was made or changed, but for the page's
own, which holds the beginning of the image where the disk had no room for all of it.

Where a directory of the day has the largest number and no session is set, the request breaks off when
it asks for the next one: there is no answer, and the image is lost.

Key definitions: `Response.member?`, `Service.NumberLeft`.
Key theorems: `generated_kept`, `handle_of_usedUp`.
-/
import MangaPress.Proofs.Output.Numbering
import MangaPress.Proofs.Service.Handling
import MangaPress.Proofs.Service.Secrecy

namespace MangaPress.Service

open Generation (GenerateRequest GeneratedPage)

/-- The member of this name in the object that an answer has for its body. -/
def Response.member? (response : Response) (name : Text) : Option Json.Value :=
  match response.body with
  | .json (.object members) => members.lookup name
  | _ => none

/-! ### The answer with an image -/

section Generated

variable (occasion : Occasion) (page : GeneratedPage) (saved : Option (Except OutputError Path))

/-- An answer with a generated page holds the image. -/
theorem generated_image :
    (generated occasion page saved).status = 200 ∧
      (generated occasion page saved).member? "data" = some (.string page.image.data) ∧
      (generated occasion page saved).member? "mime_type" = some (.string page.image.mimeType) := by
  refine ⟨rfl, ?_, ?_⟩ <;> rfl

/-- Of an image that was not to be saved, nothing is said about saving. -/
theorem generated_unsaved :
    (generated occasion page none).member? "saved_path" = none ∧
      (generated occasion page none).member? "save_error" = none :=
  ⟨rfl, rfl⟩

theorem generated_saved (path : Path) :
    (generated occasion page (some (.ok path))).member? "saved_path" = some (.string path) ∧
      (generated occasion page (some (.ok path))).member? "save_error" = none :=
  ⟨rfl, rfl⟩

theorem generated_failed (e : OutputError) :
    (generated occasion page (some (.error e))).member? "saved_path" = none ∧
      (generated occasion page (some (.error e))).member? "save_error" =
        some (.string e.message) :=
  ⟨rfl, rfl⟩

theorem saved_of_ne (e : OutputError) (h : e ≠ .overflow) :
    Service.saved occasion page (.error e) = generated occasion page (some (.error e)) := by
  cases e with
  | overflow => exact absurd rfl h
  | _ => rfl

end Generated

/-! ### The request -/

/-- The service saves pages in a session of its own, or the day has a number left for the next one. -/
def NumberLeft (s : Service) (date : Date) (files : FileTree) : Prop :=
  resolveSession none s.session = none → ¬ Output.UsedUp files s.outputRoot date

/-- **No image is lost, and what is said to be saved is.** A request for a page whose run brings an
image, and that is not to be saved or for which a number is left, is answered with the data and media
type of the image, whatever the files are like. If it was not to be saved, nothing is said of that and
the files stay as they are. If it was, the answer either names a path, and then the file at that path
has the bytes of the image, or says why the image was not saved. Then every file is what it was, and
directories may have been added where nothing was; only if the disk had no room for the image, the file
at the page's path is another one as well, which holds a beginning of the bytes. -/
theorem generated_kept (s : Service) (occasion : Occasion) (state : State) {r : Request}
    {request : GenerateRequest} {page : GeneratedPage}
    (hroute : r.route? = some .generatePage)
    (hread : r.decode GenerateRequest.decoder = .ok request)
    (hrun : (s.runOf state request).1 = .ok page)
    (hleft : request.save = true → s.NumberLeft occasion.date state.files) :
    ∃ response after, s.handle occasion state r = (response, after) ∧ response.status = 200 ∧
      response.member? "data" = some (.string page.image.data) ∧
      response.member? "mime_type" = some (.string page.image.mimeType) ∧
      (request.save = false →
        response.member? "saved_path" = none ∧ response.member? "save_error" = none ∧
          after.files = state.files) ∧
      (request.save = true →
        (∃ path bytes, response.member? "saved_path" = some (.string path) ∧
          response.member? "save_error" = none ∧
          Base64.decode? page.image.data = some bytes ∧ after.files.bytesAt path = .ok bytes) ∨
        (∃ message, response.member? "saved_path" = none ∧
          response.member? "save_error" = some (.string message) ∧
          ∀ l, after.files.node? l = state.files.node? l ∨
            state.files.node? l = none ∧ after.files.node? l = some .directory) ∨
        ∃ path bytes, response.member? "saved_path" = none ∧
          response.member? "save_error" =
            some (.string (OutputError.write path .noSpace).message) ∧
          Base64.decode? page.image.data = some bytes ∧ occasion.room.holds bytes = false ∧
          after.files.bytesAt path = .ok (occasion.room.part bytes) ∧
          ∀ l, l ≠ FileTree.placeFrom state.files.workingDirectory path →
            after.files.node? l = state.files.node? l ∨
              state.files.node? l = none ∧ after.files.node? l = some .directory) := by
  obtain ⟨x, hx⟩ : ∃ x, s.runOf state request = (.ok page, x) := ⟨_, Prod.ext hrun rfl⟩
  rw [handle_generatePage s occasion state hroute hread]
  cases hsave : request.save with
  | false =>
    rw [generatePage_of_unsaved s occasion state request hx hsave]
    obtain ⟨hstatus, hdata, htype⟩ := generated_image occasion page none
    obtain ⟨hpath, herror⟩ := generated_unsaved occasion page
    exact ⟨_, _, rfl, hstatus, hdata, htype, fun _ => ⟨hpath, herror, rfl⟩, nofun⟩
  | true =>
    rcases Output.save_keeps state.files s.outputRoot
        (page.image.downloadName occasion.milliseconds) (resolveSession none s.session)
        occasion.date page.image occasion.room with
      ⟨e, files', hs, hnodes⟩ | ⟨path, files', bytes, hs, hbytes, hthere⟩ |
        ⟨path, files', bytes, hs, hbytes, hholds, hthere, hnodes⟩
    · have hne : e ≠ .overflow := by
        rintro rfl
        obtain ⟨hsession, hused⟩ := Output.usedUp_of_save (congrArg Prod.snd hs)
        exact hleft hsave hsession hused
      rw [generatePage_of_save s occasion state request hx hsave hs,
        saved_of_ne occasion page e hne]
      obtain ⟨hstatus, hdata, htype⟩ := generated_image occasion page (some (.error e))
      obtain ⟨hpath, herror⟩ := generated_failed occasion page e
      exact ⟨_, _, rfl, hstatus, hdata, htype, nofun,
        fun _ => .inr (.inl ⟨e.message, hpath, herror, hnodes⟩)⟩
    · rw [generatePage_of_save s occasion state request hx hsave hs]
      obtain ⟨hstatus, hdata, htype⟩ := generated_image occasion page (some (.ok path))
      obtain ⟨hpath, herror⟩ := generated_saved occasion page path
      exact ⟨_, _, rfl, hstatus, hdata, htype, nofun,
        fun _ => .inl ⟨path, bytes, hpath, herror, hbytes, hthere⟩⟩
    · rw [generatePage_of_save s occasion state request hx hsave hs,
        saved_of_ne occasion page (.write path .noSpace) (by nofun)]
      obtain ⟨hstatus, hdata, htype⟩ :=
        generated_image occasion page (some (.error (.write path .noSpace)))
      obtain ⟨hpath, herror⟩ := generated_failed occasion page (.write path .noSpace)
      exact ⟨_, _, rfl, hstatus, hdata, htype, nofun,
        fun _ => .inr (.inr ⟨path, bytes, hpath, herror, hbytes, hholds, hthere, hnodes⟩)⟩

/-- Where no number is left, the request breaks off once the image is there, and the files stay. -/
theorem handle_of_usedUp (s : Service) (occasion : Occasion) (state : State) {r : Request}
    {request : GenerateRequest} {page : GeneratedPage} {x : Generation.Exchange}
    (hroute : r.route? = some .generatePage)
    (hread : r.decode GenerateRequest.decoder = .ok request)
    (hrun : s.runOf state request = (.ok page, x)) (hsave : request.save = true)
    (hsession : resolveSession none s.session = none)
    (hused : Output.UsedUp state.files s.outputRoot occasion.date) :
    s.handle occasion state r = (Response.closed, { state with toExchange := x }) := by
  have hdone := Output.save_of_usedUp hused (page.image.downloadName occasion.milliseconds)
    page.image occasion.room
  rw [← hsession] at hdone
  rw [handle_generatePage s occasion state hroute hread,
    generatePage_of_save s occasion state request hrun hsave hdone]
  rfl

/-- An answer of the endpoint that brings an image. -/
def reply (image : Image) : Web.Answer :=
  .reply 200 none (Text.encode (Json.Value.object [("candidates", .array [.object [("content",
    .object [("parts", .array [.object [("inlineData", image.wire)]])])]])]).compact) true

/-- A page is asked for and is to be saved. -/
def savedPage : Request :=
  .withKey "POST" "/api/v1/pages/generate" [("yaml", .string onePanel)] [("save", .bool true)] "key"

/-- An image whose data are not Base64 cannot be saved, and is given out all the same. -/
theorem handle_unsavable :
    ∃ response after message, standard.handle default
        { secluded with answers := [reply { mimeType := "image/png", data := "UkV" }] } savedPage =
          (response, after) ∧
      response.status = 200 ∧ response.member? "data" = some (.string "UkV") ∧
      response.member? "save_error" = some (.string message) := by
  have hread : savedPage.decode GenerateRequest.decoder = .ok
      { yaml := onePanel, apiKey := some "key", save := true } :=
    eq_ok_of_toOption (by decide +kernel)
  have himage : (standard.runOf
      { secluded with answers := [reply { mimeType := "image/png", data := "UkV" }] }
      { yaml := onePanel, apiKey := some "key", save := true }).1.toOption.map GeneratedPage.image =
      some { mimeType := "image/png", data := "UkV" } := by
    decide +kernel
  have hfirst : Output.nextNumber {} (Output.dayPath "output" (default : Occasion).date) = .ok 1 :=
    eq_ok_of_toOption (by decide +kernel)
  have hleft : standard.NumberLeft (default : Occasion).date {} := by
    intro _ hused
    cases hfirst.symm.trans (Output.nextNumber_eq_overflow_iff.mpr hused)
  obtain ⟨page, hpage, hdata⟩ := Option.map_eq_some_iff.mp himage
  obtain ⟨response, after, hhandle, hstatus, hmember, -, -, hsave⟩ :=
    generated_kept standard default
      { secluded with answers := [reply { mimeType := "image/png", data := "UkV" }] }
      (by decide +kernel) hread (eq_ok_of_toOption hpage) fun _ => hleft
  have hnone : Base64.decode? "UkV".toList = none := by decide +kernel
  rw [hdata] at hmember hsave
  rcases hsave rfl with ⟨_, bytes, -, -, hbytes, -⟩ | ⟨message, -, hmessage, -⟩ |
    ⟨_, bytes, -, -, hbytes, -⟩
  · cases hnone.symm.trans hbytes
  · exact ⟨response, after, message, hhandle, hstatus, hmember, hmessage⟩
  · cases hnone.symm.trans hbytes

/-- A state with an image to come, in which the last number of the day is that of a directory. -/
def lastNumberTaken : State where
  answers := [reply { mimeType := "image/png", data := "QUJD" }]
  files := { entries := [
    (["output", "2025-11", "02", "18446744073709551615"].map String.toList, .directory),
    (["output", "2025-11", "02"].map String.toList, .directory),
    (["output", "2025-11"].map String.toList, .directory), (["output".toList], .directory)] }
  served := fun _ => .lost

/-- A state without files and with an image to come. -/
def imageToCome : State :=
  { secluded with answers := [reply { mimeType := "image/png", data := "QUJD" }] }

/-- Where no number is left the image is not given out, and where the disk is full a file is made though
the answer says why the image was not saved. -/
theorem image_not_kept :
    (standard.runOf lastNumberTaken
        { yaml := onePanel, apiKey := some "key", save := true }).1.isOk = true ∧
      (standard.handle { (default : Occasion) with date := ⟨2025, 11, 2⟩ } lastNumberTaken
        savedPage).1.status ≠ 200 ∧
      ((standard.handle { (default : Occasion) with room := .bytes 0 } imageToCome
        savedPage).1.member? "save_error").isSome = true ∧
      imageToCome.files.bytesAt "output/0000-00/00/1/manga_0.png" = .error .notFound ∧
      (standard.handle { (default : Occasion) with room := .bytes 0 } imageToCome
        savedPage).2.files.bytesAt "output/0000-00/00/1/manga_0.png" = .ok [] := by
  refine ⟨by decide +kernel, by decide +kernel, by decide +kernel, by rfl, ?_⟩
  exact eq_ok_of_toOption (by decide +kernel)

end MangaPress.Service
