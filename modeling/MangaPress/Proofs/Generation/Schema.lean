/-
# What answers say

What the body of an answer must be to be read, level by level: an answer that succeeds has
candidates, these have content, the content has parts, and a part may have image data; at each level
what is read may be missing, and null, and other members do not matter as long as they are JSON. A
refusal must have an error, whose message may be missing, and null.

Key definitions: `InlineData.Reads`, `Part.Reads`, `Content.Reads`, `Candidate.Reads`,
`Response.Reads`, `Refusal.Reads`.
Key theorems: `Response.decoder_eq_ok_iff`, `Refusal.decoder_eq_ok_iff`.
-/
import MangaPress.Generation.Endpoint
import MangaPress.Proofs.Json.Schema

namespace MangaPress.Generation

open Json (Reading Gives OrNull IsText ListOf)

/-! ### Answers that succeed -/

/-- What a value says about image data. -/
def InlineData.Reads (x : Reading) (d : InlineData) : Prop :=
  ∃ mimeType data, Gives [["mimeType", "mime_type"], ["data"]] 0 x [mimeType, data] ∧
    OrNull IsText mimeType d.mimeType ∧ OrNull IsText data d.data

/-- What a value says about a part. -/
def Part.Reads (x : Reading) (p : Part) : Prop :=
  ∃ inlineData text, Gives [["inlineData", "inline_data"], ["text"]] 0 x [inlineData, text] ∧
    OrNull InlineData.Reads inlineData p.inlineData ∧ OrNull IsText text p.text

/-- What a value says about the content of a candidate. -/
def Content.Reads (x : Reading) (c : Content) : Prop :=
  ∃ parts, Gives [["parts"]] 0 x [parts] ∧ OrNull (ListOf Part.Reads) parts c.parts

/-- What a value says about a candidate. -/
def Candidate.Reads (x : Reading) (c : Candidate) : Prop :=
  ∃ content, Gives [["content"]] 0 x [content] ∧ OrNull Content.Reads content c.content

/-- What a value says about an answer. -/
def Response.Reads (x : Reading) (r : Response) : Prop :=
  ∃ candidates, Gives [["candidates"]] 0 x [candidates] ∧
    OrNull (ListOf Candidate.Reads) candidates r.candidates

/-- What a value says about the reason of a refusal. -/
def Refusal.Reads (x : Reading) (r : Refusal) : Prop :=
  ∃ error message, Gives [["error"]] 1 x [some error] ∧ Gives [["message"]] 1 error [message] ∧
    OrNull IsText message r.message

/-! ### Reading answers -/

namespace InlineData

theorem decoder_eq_ok_iff (x : Reading) (d : InlineData) : decoder x = .ok d ↔ Reads x d := by
  rw [decoder, Json.record_two_eq_ok_iff ?orderless rfl rfl]
  case orderless =>
    exact ⟨by decide +kernel, List.pairwise_pair.mpr
      (Field.commutes_of_set (fun _ _ => rfl) (fun _ _ => rfl) fun _ _ _ => rfl)⟩
  refine exists₂_congr fun o o' => and_congr_right fun _ => ?_
  constructor
  · intro h
    obtain ⟨_, hmimeType, h⟩ := (Json.chain_text (by decide) (fun _ _ => rfl) rfl).mp h
    obtain ⟨_, hdata, h⟩ := (Json.chain_text (by decide) (fun _ _ => rfl) rfl).mp h
    cases h
    exact ⟨hmimeType, hdata⟩
  · rintro ⟨hmimeType, hdata⟩
    refine (Json.chain_text (by decide) (fun _ _ => rfl) rfl).mpr ⟨_, hmimeType, ?_⟩
    exact (Json.chain_text (by decide) (fun _ _ => rfl) rfl).mpr ⟨_, hdata, rfl⟩

theorem not_reads_null (d : InlineData) : ¬ Reads .null d :=
  fun ⟨_, _, h, _⟩ => Json.not_gives_null h

end InlineData

namespace Part

theorem decoder_eq_ok_iff (x : Reading) (p : Part) : decoder x = .ok p ↔ Reads x p := by
  rw [decoder, Json.record_two_eq_ok_iff ?orderless rfl rfl]
  case orderless =>
    exact ⟨by decide +kernel, List.pairwise_pair.mpr
      (Field.commutes_of_set (fun _ _ => rfl) (fun _ _ => rfl) fun _ _ _ => rfl)⟩
  refine exists₂_congr fun o o' => and_congr_right fun _ => ?_
  constructor
  · intro h
    obtain ⟨_, hinlineData, h⟩ := (Json.chain_orNull (by decide) (fun _ _ => rfl)
      InlineData.decoder_eq_ok_iff InlineData.not_reads_null rfl).mp h
    obtain ⟨_, htext, h⟩ := (Json.chain_text (by decide) (fun _ _ => rfl) rfl).mp h
    cases h
    exact ⟨hinlineData, htext⟩
  · rintro ⟨hinlineData, htext⟩
    refine (Json.chain_orNull (by decide) (fun _ _ => rfl)
      InlineData.decoder_eq_ok_iff InlineData.not_reads_null rfl).mpr ⟨_, hinlineData, ?_⟩
    exact (Json.chain_text (by decide) (fun _ _ => rfl) rfl).mpr ⟨_, htext, rfl⟩

end Part

namespace Content

theorem decoder_eq_ok_iff (x : Reading) (c : Content) : decoder x = .ok c ↔ Reads x c :=
  Json.record_orNull_eq_ok_iff (by decide) (Nat.zero_le 1) (by decide) (by decide) (fun _ _ => rfl)
    (Json.list_eq_ok_iff Part.decoder_eq_ok_iff) Json.not_listOf_null rfl (fun _ => rfl)
    (fun _ => rfl)

theorem not_reads_null (c : Content) : ¬ Reads .null c :=
  fun ⟨_, h, _⟩ => Json.not_gives_null h

end Content

theorem Candidate.decoder_eq_ok_iff (x : Reading) (c : Candidate) :
    Candidate.decoder x = .ok c ↔ Candidate.Reads x c :=
  Json.record_orNull_eq_ok_iff (by decide) (Nat.zero_le 1) (by decide) (by decide) (fun _ _ => rfl)
    Content.decoder_eq_ok_iff Content.not_reads_null rfl (fun _ => rfl) (fun _ => rfl)

theorem Response.decoder_eq_ok_iff (x : Reading) (r : Response) :
    Response.decoder x = .ok r ↔ Response.Reads x r :=
  Json.record_orNull_eq_ok_iff (by decide) (Nat.zero_le 1) (by decide) (by decide) (fun _ _ => rfl)
    (Json.list_eq_ok_iff Candidate.decoder_eq_ok_iff) Json.not_listOf_null rfl (fun _ => rfl)
    (fun _ => rfl)

namespace Refusal

theorem inner_eq_ok_iff (x : Reading) (r : Refusal) : inner x = .ok r ↔
    ∃ message, Gives [["message"]] 1 x [message] ∧ OrNull IsText message r.message :=
  Json.record_orNull_eq_ok_iff (by decide) (Nat.le_refl 1) (by decide) (by decide) (fun _ _ => rfl)
    Json.text_eq_ok_iff Json.not_isText_null rfl (fun _ => rfl) (fun _ => rfl)

theorem decoder_eq_ok_iff (x : Reading) (r : Refusal) : decoder x = .ok r ↔ Reads x r := by
  rw [decoder, Json.record_one_eq_ok_iff (by decide) (Nat.le_refl 1) (by decide)]
  constructor
  · rintro ⟨error, hgives, h⟩
    cases error with
    | none => cases h
    | some error =>
      obtain ⟨_, hinner, hr⟩ := Option.bind_eq_some_iff.mp h
      cases hr
      obtain ⟨message, hmessage, ht⟩ := (inner_eq_ok_iff _ _).mp (eq_ok_of_toOption hinner)
      exact ⟨error, message, hgives, hmessage, ht⟩
  · rintro ⟨error, message, hgives, hmessage, ht⟩
    have hinner := (inner_eq_ok_iff error r).mpr ⟨message, hmessage, ht⟩
    refine ⟨some error, hgives, ?_⟩
    show (inner error).toOption.bind (chain []) = some r
    rw [hinner]
    rfl

end Refusal

end MangaPress.Generation
