/-
# What comes of an answer

A refusal is told with its status and a message that is never empty: what the body says, or else the
usual wording of the status, or else its number (`MessageOf`). Of an answer that succeeds the first
image is what comes of it, if it is read at all and has one.

Key definitions: `MessageOf`, `documentOf`.
Key theorems: `messageOf_refusalMessage`, `interpret_success_cases`, `interpret_extends`,
`interpret_reply`.
-/
import MangaPress.Proofs.Generation.FirstImage
import MangaPress.Proofs.Json.RoundTrip
import MangaPress.Proofs.Text.Numeral

namespace MangaPress.Generation

open Json (Document Says Source Within)

/-! ### The message of a refusal -/

/-- The message of a refusal with the status and the source: what the source says, if that is not
empty, or else the usual wording of the status, or else its number. -/
inductive MessageOf (status : Nat) (d : Document) : Text → Prop where
  | said {message : Text} (h : Says Refusal.Reads d { message := some message })
    (filled : message ≠ []) : MessageOf status d message
  | usual {reason : Text} (silent : ∀ message, Says Refusal.Reads d { message := some message } →
      message = []) (h : Web.reasonOf? status = some reason) : MessageOf status d reason
  | number (silent : ∀ message, Says Refusal.Reads d { message := some message } → message = [])
    (h : Web.reasonOf? status = none) : MessageOf status d (Text.ofNat status)

theorem reasonOf?_ne_nil {status : Nat} {reason : Text} (h : Web.reasonOf? status = some reason) :
    reason ≠ [] := by
  unfold Web.reasonOf? at h
  split at h <;> cases h <;> decide

theorem MessageOf.ne_nil {status : Nat} {d : Document} {message : Text}
    (h : MessageOf status d message) : message ≠ [] := by
  cases h with
  | said _ filled => exact filled
  | usual _ h => exact reasonOf?_ne_nil h
  | number => exact Text.ofNat_ne_nil status

theorem messageOf_refusalMessage (status : Nat) (body : Bytes) :
    MessageOf status (Document.ofSource (Source.ofBytes body)) (refusalMessage status body) := by
  unfold refusalMessage
  generalize Document.ofSource (Source.ofBytes body) = d
  have hsaid : ∀ message, (d.decode Refusal.decoder).toOption.bind (fun r => nonEmpty? r.message) =
      some message ↔ Says Refusal.Reads d { message := some message } ∧ message ≠ [] := by
    intro message
    simp only [← Json.decode_eq_ok_iff Refusal.decoder_eq_ok_iff, Option.bind_eq_some_iff,
      nonEmpty?_eq_some_iff]
    constructor
    · rintro ⟨⟨_⟩, hr, rfl, hfilled⟩
      exact ⟨eq_ok_of_toOption hr, hfilled⟩
    · rintro ⟨hr, hfilled⟩
      exact ⟨_, by rw [hr]; rfl, rfl, hfilled⟩
  dsimp only
  cases hm : (d.decode Refusal.decoder).toOption.bind (fun r => nonEmpty? r.message) with
  | some message => exact .said ((hsaid message).mp hm).1 ((hsaid message).mp hm).2
  | none =>
    have hsilent : ∀ message, Says Refusal.Reads d { message := some message } → message = [] := by
      intro message h
      by_contra hfilled
      rw [(hsaid message).mpr ⟨h, hfilled⟩] at hm
      cases hm
    cases hreason : Web.reasonOf? status with
    | some reason => exact .usual hsilent hreason
    | none => exact .number hsilent hreason

/-! ### The answer -/

/-- What the body of an answer says. -/
def documentOf (body : Bytes) : Document :=
  .ofSource (.ofBytes body)

section Reply

variable (status : Nat) (contentType : Option Bytes) (body : Bytes)

theorem isSuccess_iff : Web.isSuccess status = true ↔ 200 ≤ status ∧ status < 300 := by
  rw [Web.isSuccess, Bool.and_eq_true, decide_eq_true_iff, decide_eq_true_iff]

variable {status}

theorem interpret_of_refused (h : ¬ (200 ≤ status ∧ status < 300)) :
    interpret (.reply status contentType body true) =
      .error (.refused status (refusalMessage status body)) := by
  rw [← isSuccess_iff, Bool.not_eq_true] at h
  simp [interpret, h]

theorem interpret_of_success (h : 200 ≤ status ∧ status < 300) :
    interpret (.reply status contentType body true) =
      match (documentOf body).decode Response.decoder with
      | .error _ => .error .malformed
      | .ok r => r.image?.elim (.error .noImage) .ok := by
  rw [← isSuccess_iff] at h
  rw [documentOf]
  simp only [interpret, h, Bool.not_true, Bool.false_eq_true, if_false]
  cases (Document.ofSource (Source.ofBytes body)).decode Response.decoder with
  | error e => rfl
  | ok r => cases hr : r.image? <;> simp [hr]

/-- A body that is read is told by its first image. -/
theorem interpret_of_reads (h : 200 ≤ status ∧ status < 300) {r : Response}
    (hr : Says Response.Reads (documentOf body) r) :
    interpret (.reply status contentType body true) = r.image?.elim (.error .noImage) .ok := by
  rw [interpret_of_success contentType body h,
    (Json.decode_eq_ok_iff Response.decoder_eq_ok_iff).mpr hr]

theorem interpret_of_not_reads (h : 200 ≤ status ∧ status < 300)
    (hr : ∀ r, ¬ Says Response.Reads (documentOf body) r) :
    interpret (.reply status contentType body true) = .error .malformed := by
  rw [interpret_of_success contentType body h]
  cases hd : (documentOf body).decode Response.decoder with
  | error e => rfl
  | ok r => exact absurd ((Json.decode_eq_ok_iff Response.decoder_eq_ok_iff).mp hd) (hr r)

theorem interpret_extends (h : 200 ≤ status ∧ status < 300) {body' : Bytes}
    (hcomplete : (documentOf body').complete = (documentOf body).complete)
    (hvalue : Extends (documentOf body).value (documentOf body').value) :
    interpret (.reply status contentType body' true) =
      interpret (.reply status contentType body true) := by
  have hagree : Agree (fun r r' => r.image? = r'.image?)
      ((documentOf body).decode Response.decoder) ((documentOf body').decode Response.decoder) :=
    Document.decode_agree hcomplete hvalue.decoder_agree
  rw [interpret_of_success contentType body' h, interpret_of_success contentType body h]
  generalize (documentOf body).decode Response.decoder = y,
    (documentOf body').decode Response.decoder = y' at hagree
  cases hagree with
  | error e => rfl
  | ok hr =>
    dsimp only
    rw [hr]

/-- What comes of an answer that succeeds. -/
theorem interpret_success_cases (h : 200 ≤ status ∧ status < 300) :
    (interpret (.reply status contentType body true) = .error .malformed ↔
      ∀ r, ¬ Says Response.Reads (documentOf body) r) ∧
    (∀ image, interpret (.reply status contentType body true) = .ok image ↔
      ∃ r, Says Response.Reads (documentOf body) r ∧ r.FirstImage image) ∧
    (interpret (.reply status contentType body true) = .error .noImage ↔
      ∃ r, Says Response.Reads (documentOf body) r ∧
        ∀ parts, r.Offers parts → ∀ p ∈ parts, ∀ i, ¬ p.Shows i) := by
  simp only [← Response.image?_eq_some_iff, ← Response.image?_eq_none_iff]
  by_cases hr : ∃ r, Says Response.Reads (documentOf body) r
  · obtain ⟨r, hr⟩ := hr
    have hunique : ∀ r', Says Response.Reads (documentOf body) r' ↔ r' = r := by
      intro r'
      rw [← Json.decode_eq_ok_iff Response.decoder_eq_ok_iff,
        (Json.decode_eq_ok_iff Response.decoder_eq_ok_iff).mpr hr, Except.ok.injEq, eq_comm]
    rw [interpret_of_reads contentType body h hr]
    simp only [hunique, exists_eq_left]
    cases r.image? <;> simp
  · rw [not_exists] at hr
    rw [interpret_of_not_reads contentType body h hr]
    simp [hr]

end Reply

/-- **What comes of an answer.** Whatever the status and the body are: unless the status is one of
success, the answer is refused with it, and with a message that is not empty: what the body says if
it is read as a refusal with such a message, else the usual wording of the status, else its number.
With a status of success, the body is malformed iff it is not read as a response, and of one that is
read the first part that shows an image, among those of the first candidate, is what comes of it; there
is no image iff there is no such part. More candidates after the first, more parts after one that shows
an image and more parts without one in any place make no difference. An image has data and a media
type. -/
theorem interpret_reply (status : Nat) (contentType : Option Bytes) (body : Bytes) :
    (¬ (200 ≤ status ∧ status < 300) → ∃ message,
      interpret (.reply status contentType body true) = .error (.refused status message) ∧
      message ≠ [] ∧ MessageOf status (documentOf body) message) ∧
    (200 ≤ status ∧ status < 300 →
      (interpret (.reply status contentType body true) = .error .malformed ↔
        ∀ r, ¬ Says Response.Reads (documentOf body) r) ∧
      (∀ image, interpret (.reply status contentType body true) = .ok image ↔
        ∃ r, Says Response.Reads (documentOf body) r ∧ r.FirstImage image) ∧
      (interpret (.reply status contentType body true) = .error .noImage ↔
        ∃ r, Says Response.Reads (documentOf body) r ∧
          ∀ parts, r.Offers parts → ∀ p ∈ parts, ∀ i, ¬ p.Shows i) ∧
      ∀ body', (documentOf body').complete = (documentOf body).complete →
        Extends (documentOf body).value (documentOf body').value →
          interpret (.reply status contentType body' true) =
            interpret (.reply status contentType body true)) ∧
    ∀ image, interpret (.reply status contentType body true) = .ok image →
      image.data ≠ [] ∧ image.mimeType ≠ [] := by
  refine ⟨fun h => ?_, fun h => ?_, fun image himage => ?_⟩
  · have hmessage : MessageOf status (documentOf body) (refusalMessage status body) :=
      messageOf_refusalMessage status body
    exact ⟨_, interpret_of_refused contentType body h, hmessage.ne_nil, hmessage⟩
  · obtain ⟨hmalformed, hfound, hnone⟩ := interpret_success_cases contentType body h
    exact ⟨hmalformed, hfound, hnone, fun _ => interpret_extends contentType body h⟩
  · by_cases h : 200 ≤ status ∧ status < 300
    · obtain ⟨r, -, _, part, _, -, hpart, -⟩ :=
        ((interpret_success_cases contentType body h).2.1 image).mp himage
      have hmimeType := hpart.mimeType_ne_nil
      obtain ⟨_, -, -, hdata, -⟩ := hpart
      exact ⟨hdata, hmimeType⟩
    · rw [interpret_of_refused contentType body h] at himage
      cases himage

/-- The body of an answer with one candidate, which has these parts. -/
def bodyOf (parts : List Json.Value) : Bytes :=
  Text.encode (Json.Value.object [("candidates", .array [
    .object [("content", .object [("parts", .array parts)])]])]).compact

theorem documentOf_bodyOf (parts : List Json.Value) : documentOf (bodyOf parts) = {
    value := .object [(some "candidates".toList, .array [.object [(some "content".toList,
      .object [(some "parts".toList, .array (Json.Value.readingsOfItems parts) true)] true)] true]
      true)] true
    complete := true } := by
  rw [documentOf, bodyOf, Source.ofBytes_encode, Document.ofSource_compact]
  rfl

/-- An image without a media type is found, and it is still found after a text and after data that is
empty, and before another image. -/
theorem reply_of_more_parts :
    let text : Json.Value := .object [("text", .string "A page")]
    let empty : Json.Value := .object [("inlineData", .object [("data", .string "")])]
    let image : Json.Value :=
      .object [("inline_data", .object [("mime_type", .null), ("data", .string "QUJD")])]
    let other : Json.Value := .object [("inlineData", .object [("data", .string "WFla")])]
    interpret (.reply 200 none (bodyOf [image]) true) =
      .ok { mimeType := "image/png", data := "QUJD" } ∧
    interpret (.reply 200 none (bodyOf [text, empty, image, other]) true) =
      .ok { mimeType := "image/png", data := "QUJD" } := by
  intro text empty image other
  have hreply := (interpret_reply 200 none (bodyOf [image])).2.1 ⟨by decide, by decide⟩
  have hshows : Part.Shows { inlineData := some { data := some "QUJD".toList } }
      { mimeType := "image/png", data := "QUJD" } := ⟨_, rfl, rfl, by decide, rfl⟩
  have hone : interpret (.reply 200 none (bodyOf [image]) true) =
      .ok { mimeType := "image/png", data := "QUJD" } := by
    refine (hreply.2.1 _).mpr ⟨{ candidates := some [{ content := some { parts := some [
      { inlineData := some { data := some "QUJD".toList } }] } }] }, ?_, ?_⟩
    · rw [← Json.decode_eq_ok_iff Response.decoder_eq_ok_iff, documentOf_bodyOf]
      rfl
    · exact ⟨[], _, [], ⟨_, _, _, rfl, rfl, rfl⟩, hshows, nofun⟩
  have hreads : ∀ x p, Part.decoder x = .ok p → Part.Reads x p := fun x p =>
    (Part.decoder_eq_ok_iff x p).mp
  have hlater : MoreParts [image.reading] [image.reading, other.reading] :=
    .later (hreads _ _ rfl) hshows (.insert ⟨_, hreads _ _ rfl⟩ .nil)
  have hempty : MoreParts [image.reading] [empty.reading, image.reading, other.reading] :=
    .plain (hreads _ _ rfl) (by simp +contextual [Part.Shows]) hlater
  have hparts : MoreParts [image.reading]
      [text.reading, empty.reading, image.reading, other.reading] :=
    .plain (hreads _ _ rfl) (by simp [Part.Shows]) hempty
  refine ⟨hone, (hreply.2.2.2 _ ?_ ?_).trans hone⟩
  · rw [documentOf_bodyOf, documentOf_bodyOf]
  · rw [documentOf_bodyOf, documentOf_bodyOf]
    exact .parts hparts (@Within.member _ _ _ [] [] _ List.mem_cons_self)
      (@Within.member _ _ _ [] [] _ List.mem_cons_self)
      (@Within.member _ _ _ [] [] _ List.mem_cons_self)

end MangaPress.Generation
