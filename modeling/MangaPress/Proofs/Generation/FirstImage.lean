/-
# The first image of a response

Only the parts of the first candidate matter, and of these only the first that shows an image: one with
data that is not empty (`Response.FirstImage`). So more parts and more candidates change nothing as
long as no new part that shows an image comes before it (`MoreParts`, `Extends`). The level of a
response at which something is added is compared first, and then each level above it.

Key definitions: `Part.Shows`, `Response.Offers`, `Response.FirstImage`, `MoreParts`, `Extends`.
Key theorems: `Response.image?_eq_some_iff`, `Response.image?_eq_none_iff`, `Extends.decoder_agree`.
-/
import MangaPress.Proofs.Generation.Schema
import MangaPress.Proofs.Json.Agree

namespace MangaPress.Generation

open Json (Reading Within)

/-! ### The image of a response -/

/-- The image that a part shows: its data, which is not empty, as of the media type given, or as a
PNG image if that is absent, null or empty. -/
def Part.Shows (p : Part) (i : Image) : Prop :=
  ∃ d, p.inlineData = some d ∧ d.data = some i.data ∧ i.data ≠ [] ∧
    i.mimeType = Text.orElse d.mimeType Image.defaultMimeType

/-- A response offers the parts of its first candidate. -/
def Response.Offers (r : Response) (parts : List Part) : Prop :=
  ∃ candidate others content, r.candidates = some (candidate :: others) ∧
    candidate.content = some content ∧ content.parts = some parts

/-- The image of the first part, among those offered, that shows one. -/
def Response.FirstImage (r : Response) (i : Image) : Prop :=
  ∃ before part after, r.Offers (before ++ part :: after) ∧ part.Shows i ∧
    ∀ p ∈ before, ∀ j, ¬ p.Shows j

theorem nonEmpty?_eq_some_iff {t : Option Text} {u : Text} :
    nonEmpty? t = some u ↔ t = some u ∧ u ≠ [] := by
  rw [nonEmpty?, Option.filter_eq_some_iff]
  simp

theorem getD_nonEmpty? (t : Option Text) (fallback : Text) :
    (nonEmpty? t).getD fallback = Text.orElse t fallback := by
  match t with
  | none => rfl
  | some [] => rfl
  | some (_ :: _) => rfl

theorem Part.image?_eq_some_iff {p : Part} {i : Image} : p.image? = some i ↔ p.Shows i := by
  simp only [image?, Shows, Option.bind_eq_bind, Option.bind_eq_some_iff, nonEmpty?_eq_some_iff,
    getD_nonEmpty?]
  constructor
  · rintro ⟨d, hd, data, ⟨hdata, hfilled⟩, hi⟩
    cases hi
    exact ⟨d, hd, hdata, hfilled, rfl⟩
  · rintro ⟨d, hd, hdata, hfilled, hmimeType⟩
    refine ⟨d, hd, i.data, ⟨hdata, hfilled⟩, ?_⟩
    rw [← hmimeType]

theorem Part.image?_eq_none_iff {p : Part} : p.image? = none ↔ ∀ i, ¬ p.Shows i := by
  simp only [Option.eq_none_iff_forall_ne_some, ne_eq, image?_eq_some_iff]

/-- A shown image has a media type. -/
theorem Part.Shows.mimeType_ne_nil {p : Part} {i : Image} (h : p.Shows i) : i.mimeType ≠ [] := by
  obtain ⟨d, -, -, -, hmimeType⟩ := h
  rw [hmimeType]
  match d.mimeType with
  | none => decide
  | some [] => decide
  | some (c :: t) =>
    rw [Text.orElse_some_cons]
    exact List.cons_ne_nil c t

theorem Response.offers_iff {r : Response} {parts : List Part} :
    r.Offers parts ↔ ((r.candidates.bind List.head?).bind Candidate.content).bind Content.parts =
      some parts := by
  simp only [Offers, Option.bind_eq_some_iff, List.head?_eq_some_iff]
  constructor
  · rintro ⟨candidate, others, content, hr, hcandidate, hcontent⟩
    exact ⟨content, ⟨candidate, ⟨_, hr, others, rfl⟩, hcandidate⟩, hcontent⟩
  · rintro ⟨content, ⟨candidate, ⟨_, hr, others, rfl⟩, hcandidate⟩, hcontent⟩
    exact ⟨candidate, others, content, hr, hcandidate, hcontent⟩

theorem Response.parts_of_offers {r : Response} {parts : List Part} (h : r.Offers parts) :
    r.parts = parts := by
  rw [Response.parts, offers_iff.mp h]
  rfl

theorem Response.offers_of_mem {r : Response} {p : Part} (h : p ∈ r.parts) : r.Offers r.parts := by
  rw [offers_iff]
  unfold Response.parts at h ⊢
  cases hr : ((r.candidates.bind List.head?).bind Candidate.content).bind Content.parts with
  | none =>
    rw [hr] at h
    exact absurd h List.not_mem_nil
  | some parts => rfl

theorem Response.image?_eq_some_iff {r : Response} {i : Image} :
    r.image? = some i ↔ r.FirstImage i := by
  rw [Response.image?, List.findSome?_eq_some_iff]
  constructor
  · rintro ⟨before, part, after, hparts, hpart, hbefore⟩
    have hoffers : r.Offers r.parts := offers_of_mem (p := part) (by rw [hparts]; simp)
    exact ⟨before, part, after, hparts ▸ hoffers, Part.image?_eq_some_iff.mp hpart,
      fun p hp => Part.image?_eq_none_iff.mp (hbefore p hp)⟩
  · rintro ⟨before, part, after, hoffers, hpart, hbefore⟩
    exact ⟨before, part, after, parts_of_offers hoffers, Part.image?_eq_some_iff.mpr hpart,
      fun p hp => Part.image?_eq_none_iff.mpr (hbefore p hp)⟩

theorem Response.image?_eq_none_iff {r : Response} :
    r.image? = none ↔ ∀ parts, r.Offers parts → ∀ p ∈ parts, ∀ i, ¬ p.Shows i := by
  simp only [Response.image?, List.findSome?_eq_none_iff, Part.image?_eq_none_iff]
  constructor
  · intro h parts hoffers p hp
    exact h p (by rwa [parts_of_offers hoffers])
  · intro h p hp
    exact h r.parts (offers_of_mem hp) p hp

/-! ### More parts and more candidates -/

/-- More parts, in any places: parts without an image, and after a part that shows one any parts. -/
inductive MoreParts : List Reading → List Reading → Prop where
  | nil : MoreParts [] []
  | keep (x : Reading) {xs ys : List Reading} (h : MoreParts xs ys) : MoreParts (x :: xs) (x :: ys)
  | plain {y : Reading} {p : Part} {xs ys : List Reading} (hy : Part.Reads y p)
    (hp : ∀ i, ¬ p.Shows i) (h : MoreParts xs ys) : MoreParts xs (y :: ys)
  | later {x : Reading} {p : Part} {i : Image} {xs ys : List Reading} (hx : Part.Reads x p)
    (hp : p.Shows i) (h : Inserts (fun y => ∃ q, Part.Reads y q) xs ys) :
    MoreParts (x :: xs) (x :: ys)

/-- The one response says what the other says, with more candidates after the first or with more parts
in the first. -/
inductive Extends : Reading → Reading → Prop where
  | candidates {first : Reading} {rest rest' : List Reading} {x x' : Reading}
    (h : Inserts (fun y => ∃ c, Candidate.Reads y c) rest rest')
    (hx : Within ["candidates"] (.array (first :: rest) true) (.array (first :: rest') true) x x') :
    Extends x x'
  | parts {parts parts' rest : List Reading} {content content' first first' x x' : Reading}
    (h : MoreParts parts parts')
    (hcontent : Within ["parts"] (.array parts true) (.array parts' true) content content')
    (hfirst : Within ["content"] content content' first first')
    (hx : Within ["candidates"] (.array (first :: rest) true) (.array (first' :: rest) true) x x') :
    Extends x x'

/-- The first image is the same. -/
def SameImage (ps ps' : List Part) : Prop :=
  ps.findSome? Part.image? = ps'.findSome? Part.image?

theorem SameImage.refl (ps : List Part) : SameImage ps ps :=
  rfl

theorem MoreParts.mapM_agree {xs ys : List Reading} (h : MoreParts xs ys) :
    Agree SameImage (xs.mapM Part.decoder) (ys.mapM Part.decoder) := by
  -- The reading stops at the same problem, if there is one; else a new part without an image is passed
  -- over in the search, and one after the image is not reached.
  induction h with
  | nil => exact .ok rfl
  | keep x _ ih =>
    rw [mapM_cons_eq, mapM_cons_eq]
    cases Part.decoder x with
    | error e => exact .error e
    | ok p =>
      refine ih.map fun ps ps' hps => ?_
      rw [SameImage, List.findSome?_cons, List.findSome?_cons, hps]
  | @plain y p xs ys hy hp _ ih =>
    rw [mapM_cons_eq, (Part.decoder_eq_ok_iff y p).mpr hy]
    refine ih.map_right fun ps ps' hps => ?_
    rw [SameImage, List.findSome?_cons_of_isNone (by rw [Part.image?_eq_none_iff.mpr hp]; rfl), hps]
  | @later x p i xs ys hx hp h =>
    have hrest : Agree (fun _ _ => True) (xs.mapM Part.decoder) (ys.mapM Part.decoder) :=
      h.mapM_agree fun y ⟨q, hq⟩ => ⟨q, (Part.decoder_eq_ok_iff y q).mpr hq⟩
    rw [mapM_cons_eq, mapM_cons_eq, (Part.decoder_eq_ok_iff x p).mpr hx]
    refine hrest.map fun ps ps' _ => ?_
    rw [SameImage, List.findSome?_cons, List.findSome?_cons, Part.image?_eq_some_iff.mpr hp]

/-- The parts of a candidate. -/
def Candidate.parts (c : Candidate) : List Part :=
  (c.content.bind Content.parts).getD []

theorem content_agree {parts parts' : List Reading} {x x' : Reading} (h : MoreParts parts parts')
    (hx : Within ["parts"] (.array parts true) (.array parts' true) x x') :
    Agree (fun c c' => SameImage (c.parts.getD []) (c'.parts.getD [])) (Content.decoder x)
      (Content.decoder x') := by
  have hlist : Agree SameImage (Json.Decoder.list Part.decoder (.array parts true))
      (Json.Decoder.list Part.decoder (.array parts' true)) := by
    rw [Json.list_closed, Json.list_closed]
    exact h.mapM_agree
  exact Json.record_within_optional (fun _ => rfl) (fun _ _ => rfl) (fun _ _ hps => hps) hlist
    hx nofun nofun

theorem candidate_agree {content content' x x' : Reading}
    (hcontent : Agree (fun c c' => SameImage (c.parts.getD []) (c'.parts.getD []))
      (Content.decoder content) (Content.decoder content'))
    (hnull : content ≠ .null ∧ content' ≠ .null) (hx : Within ["content"] content content' x x') :
    Agree (fun c c' => SameImage c.parts c'.parts) (Candidate.decoder x) (Candidate.decoder x') :=
  Json.record_within_optional (fun _ => rfl) (fun _ _ => rfl) (fun _ _ hps => hps) hcontent
    hx hnull.1 hnull.2

/-- Only the first candidate matters. -/
theorem response_agree {first first' x x' : Reading} {rest rest' : List Reading}
    (hfirst : Agree (fun c c' => SameImage c.parts c'.parts) (Candidate.decoder first)
      (Candidate.decoder first'))
    (hrest : Agree (fun _ _ => True) (rest.mapM Candidate.decoder) (rest'.mapM Candidate.decoder))
    (hx : Within ["candidates"] (.array (first :: rest) true) (.array (first' :: rest') true) x x') :
    Agree (fun r r' => r.image? = r'.image?) (Response.decoder x) (Response.decoder x') := by
  have hlist : Agree (fun cs cs' => Response.image? ⟨some cs⟩ = Response.image? ⟨some cs'⟩)
      (Json.Decoder.list Candidate.decoder (.array (first :: rest) true))
      (Json.Decoder.list Candidate.decoder (.array (first' :: rest') true)) := by
    rw [Json.list_closed, Json.list_closed, mapM_cons_eq, mapM_cons_eq]
    exact hfirst.bind fun c c' hc => hrest.map fun _ _ _ => hc
  exact Json.record_within_optional (fun _ => rfl) (fun _ _ => rfl) (fun _ _ hi => hi) hlist
    hx nofun nofun

/-- **More parts and candidates change nothing.** -/
theorem Extends.decoder_agree {x x' : Reading} (h : Extends x x') :
    Agree (fun r r' => r.image? = r'.image?) (Response.decoder x) (Response.decoder x') := by
  cases h with
  | @candidates first rest rest' _ _ hrest hx =>
    have hfirst : Agree (fun c c' => SameImage c.parts c'.parts) (Candidate.decoder first)
        (Candidate.decoder first) :=
      Agree.refl (fun c => SameImage.refl c.parts) _
    refine response_agree hfirst ?_ hx
    exact hrest.mapM_agree fun y ⟨c, hc⟩ => ⟨c, (Candidate.decoder_eq_ok_iff y c).mpr hc⟩
  | parts hparts hcontent hfirst hx =>
    have hcandidate := candidate_agree (content_agree hparts hcontent)
      ⟨hcontent.ne_null, hcontent.symm.ne_null⟩ hfirst
    exact response_agree hcandidate (Agree.refl (fun _ => trivial) _) hx

end MangaPress.Generation
