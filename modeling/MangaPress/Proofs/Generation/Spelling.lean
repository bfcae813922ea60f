/-
# The two spellings of names in answers

Image data and its media type have two names each in what the endpoint answers, and an answer may mix
them. What comes of an answer is the same if any of its keys are spelled in the other way, anywhere in
it: also where a name stands twice in an object, in one spelling or in both, and also in what is not
read at all.

Key definitions: `spellings`.
Key theorems: `Response.overlooks_decoder`, `interpret_respelled`, `generate_of_respelled`.
-/
import MangaPress.Proofs.Generation.Answer
import MangaPress.Proofs.Json.Respelled

namespace MangaPress.Generation

open Json (Overlooks Respelled overlooks_record_one overlooks_record_two overlooks_text)

/-- The names that have two spellings. -/
def spellings : List (List Text) :=
  [["inlineData", "inline_data"], ["mimeType", "mime_type"]]

/-! ### Decoders -/

theorem InlineData.overlooks_decoder : Overlooks spellings InlineData.decoder :=
  overlooks_record_two (by decide +kernel) (fun _ => overlooks_text.optional.map _)
    fun _ => overlooks_text.optional.map _

theorem Part.overlooks_decoder : Overlooks spellings Part.decoder :=
  overlooks_record_two (by decide +kernel) (fun _ => InlineData.overlooks_decoder.optional.map _)
    fun _ => overlooks_text.optional.map _

theorem Content.overlooks_decoder : Overlooks spellings Content.decoder :=
  overlooks_record_one (by decide +kernel) fun _ => Part.overlooks_decoder.list.optional.map _

theorem Candidate.overlooks_decoder : Overlooks spellings Candidate.decoder :=
  overlooks_record_one (by decide +kernel) fun _ => Content.overlooks_decoder.optional.map _

theorem Response.overlooks_decoder : Overlooks spellings Response.decoder :=
  overlooks_record_one (by decide +kernel) fun _ => Candidate.overlooks_decoder.list.optional.map _

theorem Refusal.overlooks_decoder : Overlooks spellings Refusal.decoder := by
  have hinner : Overlooks spellings Refusal.inner :=
    overlooks_record_one (by decide +kernel) fun _ => overlooks_text.optional.map _
  exact overlooks_record_one (by decide +kernel) fun _ => hinner

/-! ### Answers -/

/-- Whatever its status is, an answer comes to the same with keys respelled. -/
theorem interpret_respelled {body body' : Bytes}
    (h : (documentOf body).Respelled spellings (documentOf body')) (status : Nat)
    (contentType : Option Bytes) (complete : Bool) :
    interpret (.reply status contentType body' complete) =
      interpret (.reply status contentType body complete) := by
  have hresponse : (documentOf body).decode Response.decoder =
      (documentOf body').decode Response.decoder := Response.overlooks_decoder.decode_eq h
  have hrefusal : (documentOf body).decode Refusal.decoder =
      (documentOf body').decode Refusal.decoder := Refusal.overlooks_decoder.decode_eq h
  rw [documentOf, documentOf] at hresponse hrefusal
  simp only [interpret, refusalMessage, hresponse, hrefusal]

/-- **Spelling.** Let the body of one answer be that of another one with any of its keys spelled in the
other way, anywhere in it. What the endpoint makes of the one answer is what it makes of the other one,
whatever it was asked: the same image, no image in both, or a body that is malformed in both. -/
theorem generate_of_respelled {body body' : Bytes}
    (h : (documentOf body).Respelled spellings (documentOf body')) {status : Nat}
    {contentType : Option Bytes} {complete : Bool} {x x' : Exchange}
    (hx : x.answers.next.1 = .reply status contentType body complete)
    (hx' : x'.answers.next.1 = .reply status contentType body' complete)
    (endpoint : Endpoint) (images : List Image) (prompt credential : Text) :
    (endpoint.generate images prompt credential x').1 =
      (endpoint.generate images prompt credential x).1 := by
  unfold Endpoint.generate
  cases endpoint.call? images prompt credential with
  | none => rfl
  | some call =>
    dsimp only [Exchange.post]
    rw [hx, hx']
    exact interpret_respelled h status contentType complete

theorem respelled_bodyOf {parts parts' : List Json.Value}
    (h : Json.ItemsRespelled spellings (Json.Value.readingsOfItems parts)
      (Json.Value.readingsOfItems parts')) :
    (documentOf (bodyOf parts)).Respelled spellings (documentOf (bodyOf parts')) := by
  rw [documentOf_bodyOf, documentOf_bodyOf]
  refine ⟨.object (.cons (.same _) (.array (.cons ?_ .nil)) .nil), rfl⟩
  exact .object (.cons (.same _) (.object (.cons (.same _) (.array h) .nil)) .nil)

/-- An image is found under the other spellings too, and where the image data stands twice in a part
nothing is read, in two spellings as in one. -/
theorem generate_of_other_spelling :
    let e := Endpoint.of "http://localhost" "model"
    let image := Json.Value.object [("mimeType", .string "image/webp"), ("data", .string "QUJD")]
    let image' := Json.Value.object [("mime_type", .string "image/webp"), ("data", .string "QUJD")]
    let result (part : Json.Value) := (e.generate [] "a page" "key"
      { answers := [.reply 200 none (bodyOf [part]) true] }).1
    result (.object [("inlineData", image)]) = .ok { mimeType := "image/webp", data := "QUJD" } ∧
    result (.object [("inline_data", image')]) = .ok { mimeType := "image/webp", data := "QUJD" } ∧
    result (.object [("inlineData", image), ("inlineData", image)]) = .error .malformed ∧
    result (.object [("inlineData", image), ("inline_data", image')]) = .error .malformed := by
  intro e image image' result
  have haddress : (Web.Url.parse? e.address).isSome = true := by decide +kernel
  obtain ⟨url, hurl⟩ := Option.isSome_iff_exists.mp haddress
  have hresult : ∀ part, result part = interpret (.reply 200 none (bodyOf [part]) true) := by
    intro part
    show (e.generate _ _ _ _).1 = _
    rw [Endpoint.generate, Endpoint.call?, hurl]
    rfl
  have hsame : ∀ part part', Respelled spellings part.reading part'.reading →
      result part' = result part := by
    intro part part' h
    have hbodies : (documentOf (bodyOf [part])).Respelled spellings (documentOf (bodyOf [part'])) :=
      respelled_bodyOf (.cons h .nil)
    exact generate_of_respelled hbodies rfl rfl e [] "a page" "key"
  have hfound : result (.object [("inlineData", image)]) =
      .ok { mimeType := "image/webp", data := "QUJD" } := by
    rw [hresult, interpret_of_success _ _ ⟨by decide, by decide⟩, documentOf_bodyOf]
    rfl
  have htwice : result (.object [("inlineData", image), ("inlineData", image)]) =
      .error .malformed := by
    rw [hresult, interpret_of_success _ _ ⟨by decide, by decide⟩, documentOf_bodyOf]
    rfl
  have hdata : Json.SameKey spellings (some "inlineData".toList) (some "inline_data".toList) :=
    .respelled List.mem_cons_self (by decide) (by decide)
  have htype : Json.SameKey spellings (some "mimeType".toList) (some "mime_type".toList) :=
    .respelled (List.mem_cons_of_mem _ List.mem_cons_self) (by decide) (by decide)
  have himage : Respelled spellings image.reading image'.reading :=
    .object (.cons htype (.same _) (.cons (.same _) (.same _) .nil))
  refine ⟨hfound, ?_, htwice, ?_⟩
  · rw [hsame (.object [("inlineData", image)]) (.object [("inline_data", image')])
      (.object (.cons hdata himage .nil))]
    exact hfound
  · rw [hsame (.object [("inlineData", image), ("inlineData", image)])
      (.object [("inlineData", image), ("inline_data", image')])
      (.object (.cons (.same _) (.same _) (.cons hdata himage .nil)))]
    exact htwice

end MangaPress.Generation
