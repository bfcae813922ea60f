/-
# The body of a call is read back

What a call sends is one turn of the user: the reference images in their order and then the prompt.
A reader of JSON finds exactly this in the body, whatever characters the texts hold, and a reader of
turns (`TurnPart.decoder`), which tells the parts apart by their only key, gets the images and the
prompt back. So a body stands for one list of images and one prompt.

Key definitions: `Generation.TurnPart`, `Generation.Turn`, `Generation.Turn.contentsDecoder`.
Key theorems: `Generation.decode_requestBody`, `Generation.call_body_faithful`.
-/
import MangaPress.Proofs.Generation.Run
import MangaPress.Proofs.Json.RoundTrip

namespace MangaPress

namespace Json

/-- A list of written values is decoded value by value. -/
theorem Decoder.list_readingsOfItems {α β : Type} {decode : Decoder β} {write : α → Value}
    {read : α → β} (h : ∀ a, decode (write a).reading = .ok (read a)) (as : List α) :
    Decoder.list decode (.array (Value.readingsOfItems (as.map write)) true) =
      .ok (as.map read) := by
  have hmap : (Value.readingsOfItems (as.map write)).mapM decode = .ok (as.map read) := by
    induction as with
    | nil => rfl
    | cons a as ih =>
      rw [List.map_cons, Value.readingsOfItems, List.mapM_cons, h, ih]
      rfl
  rw [Decoder.list, hmap]
  rfl

end Json

namespace Generation

open Json (Decoder Value)

/-! ### Reading turns -/

/-- What a part of a turn brings. -/
inductive TurnPart where
  | image (i : Image)
  | text (t : Text)
deriving Repr, DecidableEq

/-- One contribution to a conversation. -/
structure Turn where
  role : Text := []
  parts : List TurnPart := []
deriving Repr, DecidableEq

/-- The decoder of parts: an object with one member, whose key tells what it is. -/
def TurnPart.decoder : Decoder TurnPart
  | .object [(some key, r)] true =>
    if key = "inlineData".toList then (Image.decoder r).map .image
    else if key = "text".toList then (Decoder.text r).map .text
    else .error .mistyped
  | r => .error r.mismatch

/-- The decoder of turns. -/
def Turn.decoder : Decoder Turn :=
  Decoder.record {
    blank := {}
    fields := [
      { name := "role", presence := .required
        read := fun r x => (Decoder.text r).map fun t => { x with role := t } },
      { name := "parts", presence := .required
        read := fun r x => (Decoder.list TurnPart.decoder r).map fun ps => { x with parts := ps } }] }

/-- The decoder of the turns that a call sends. -/
def Turn.contentsDecoder : Decoder (List Turn) :=
  Decoder.record {
    blank := []
    fields := [
      { name := "contents", presence := .required
        read := fun r _ => Decoder.list Turn.decoder r }] }

/-- The part as it is written. -/
def TurnPart.wire : TurnPart → Value
  | image i => imagePart i
  | text t => textPart t

theorem TurnPart.decoder_wire : ∀ p : TurnPart, TurnPart.decoder p.wire.reading = .ok p
  | .image _ => rfl
  | .text _ => rfl

theorem Turn.decoder_object (role : Text) (r : Json.Reading) :
    Turn.decoder (.object [(some "role".toList, .string (some role)), (some "parts".toList, r)]
      true) = (Decoder.list TurnPart.decoder r).map fun parts => { role, parts } := by
  cases h : Decoder.list TurnPart.decoder r <;>
    simp [Turn.decoder, Decoder.record, Record.readEntries, Record.field?, Decoder.key, h] <;> rfl

theorem Turn.contentsDecoder_object (r : Json.Reading) :
    Turn.contentsDecoder (.object [(some "contents".toList, r)] true) =
      Decoder.list Turn.decoder r := by
  cases h : Decoder.list Turn.decoder r <;>
    simp [Turn.contentsDecoder, Decoder.record, Record.readEntries, Record.field?, Decoder.key, h]
      <;> rfl

/-- A written turn. -/
def turnValue (parts : List TurnPart) : Value :=
  .object [("role", .string "user"), ("parts", .array (parts.map TurnPart.wire))]

theorem Turn.decoder_turnValue (parts : List TurnPart) :
    Turn.decoder (turnValue parts).reading = .ok { role := "user", parts } := by
  have hparts := Decoder.list_readingsOfItems TurnPart.decoder_wire parts
  rw [List.map_id'] at hparts
  calc Turn.decoder (turnValue parts).reading
      = (Decoder.list TurnPart.decoder
          (.array (Value.readingsOfItems (parts.map TurnPart.wire)) true)).map
            fun parts => { role := "user", parts } := Turn.decoder_object _ _
    _ = .ok { role := "user", parts } := by rw [hparts]; rfl

theorem Turn.contentsDecoder_userTurn (parts : List TurnPart) :
    Turn.contentsDecoder (userTurn (parts.map TurnPart.wire)).reading =
      .ok [{ role := "user", parts }] :=
  (Turn.contentsDecoder_object _).trans
    (Decoder.list_readingsOfItems Turn.decoder_turnValue [parts])

/-! ### The body of a call -/

theorem requestBody_eq_wire (images : List Image) (prompt : Text) :
    requestBody images prompt =
      userTurn ((images.map TurnPart.image ++ [TurnPart.text prompt]).map TurnPart.wire) := by
  rw [requestBody_eq_userTurn, List.map_append, List.map_map]
  rfl

/-- The bytes of a request are decoded to the turn that was written. -/
theorem decode_requestBody (images : List Image) (prompt : Text) :
    (Json.Document.ofSource (Json.Source.ofBytes (Text.encode
      (requestBody images prompt).compact))).decode Turn.contentsDecoder =
      .ok [{ role := "user", parts := images.map .image ++ [.text prompt] }] := by
  rw [Json.Source.ofBytes_encode, Json.Document.ofSource_compact, Json.Document.decode,
    requestBody_eq_wire, Turn.contentsDecoder_userTurn]
  rfl

theorem body_of_call? {e : Endpoint} {images : List Image} {prompt credential : Text} {call : Call}
    (h : e.call? images prompt credential = some call) :
    call.body = (requestBody images prompt).compact := by
  obtain ⟨url, -, rfl⟩ := Option.map_eq_some_iff.mp h
  rfl

theorem parts_inj {images images' : List Image} {prompt prompt' : Text}
    (h : images.map TurnPart.image ++ [.text prompt] =
      images'.map TurnPart.image ++ [.text prompt']) : images = images' ∧ prompt = prompt' := by
  obtain ⟨himages, hprompt⟩ := List.append_inj' h rfl
  have hinj : Function.Injective TurnPart.image := fun i j hij => by
    cases hij
    rfl
  exact ⟨hinj.list_map himages, by cases hprompt; rfl⟩

/-- A body stands for one list of images and one prompt. -/
theorem compact_requestBody_inj {images images' : List Image} {prompt prompt' : Text}
    (h : (requestBody images prompt).compact = (requestBody images' prompt').compact) :
    images = images' ∧ prompt = prompt' := by
  have hread := decode_requestBody images prompt
  rw [h, decode_requestBody] at hread
  obtain ⟨hparts, -⟩ := List.cons.inj (Except.ok.inj hread)
  obtain ⟨himages, hprompt⟩ := parts_inj (Turn.mk.inj hparts).2
  exact ⟨himages.symm, hprompt.symm⟩

/-- **The body of a call is read back.** Its bytes are JSON to the end, and what they say is one turn
of the user and nothing else: each image in its order as inline data with media type and data, and
then the prompt as one text. So two calls have the same body iff they send the same images in the
same order and the same prompt. -/
theorem call_body_faithful {e : Endpoint} {images : List Image} {prompt credential : Text}
    {call : Call} (h : e.call? images prompt credential = some call) :
    Json.Document.ofSource (Json.Source.ofBytes (Text.encode call.body)) =
      { value := (userTurn (images.map imagePart ++ [textPart prompt])).reading,
        complete := true } ∧
    (userTurn (images.map imagePart ++ [textPart prompt])).reading.wellFormed = true ∧
    (Json.Document.ofSource (Json.Source.ofBytes (Text.encode call.body))).decode
        Turn.contentsDecoder =
      .ok [{ role := "user", parts := images.map .image ++ [.text prompt] }] ∧
    ∀ {e' : Endpoint} {images' : List Image} {prompt' credential' : Text} {call' : Call},
      e'.call? images' prompt' credential' = some call' →
        (call.body = call'.body ↔ images = images' ∧ prompt = prompt') := by
  rw [body_of_call? h]
  refine ⟨?_, Json.Reading.wellFormed_reading _, decode_requestBody images prompt, fun h' => ?_⟩
  · rw [Json.Source.ofBytes_encode]
    exact Json.Document.ofSource_compact _
  rw [body_of_call? h']
  constructor
  · exact compact_requestBody_inj
  · rintro ⟨rfl, rfl⟩
    rfl

/-- A prompt that looks like the end of the body is read back as a text. -/
theorem call_body_of_closing_marks :
    ∃ call, (Endpoint.of defaultBase defaultModel).call? [{ mimeType := "image/png", data := "UkVG" }]
        "\"\x7d]\x7d]\x7d\\\n\x01" "key" = some call ∧
      (Json.Document.ofSource (Json.Source.ofBytes (Text.encode call.body))).decode
          Turn.contentsDecoder =
        .ok [{ role := "user", parts := [.image { mimeType := "image/png", data := "UkVG" },
          .text "\"\x7d]\x7d]\x7d\\\n\x01"] }] := by
  have hsome : ((Endpoint.of defaultBase defaultModel).call?
      [{ mimeType := "image/png", data := "UkVG" }] "\"\x7d]\x7d]\x7d\\\n\x01" "key").isSome = true := by
    decide +kernel
  obtain ⟨call, hcall⟩ := Option.isSome_iff_exists.mp hsome
  exact ⟨call, hcall, (call_body_faithful hcall).2.2.1⟩

end Generation

end MangaPress
