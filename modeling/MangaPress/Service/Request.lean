/-
# Requests to the service and answers of it

A request that is about something has it in its body, as JSON. A body that cannot be read is rejected
with a fixed text for each reason (`Rejection`), after which the reader of JSON says what it met and
where; these words are not ours and are handed in.

Key definitions: `Request`, `Response`, `Request.isJson`, `MediaType.isJson`, `Request.decode`,
`Rejection.response`.
-/
import MangaPress.Json.Decode
import MangaPress.Json.Value
import MangaPress.Web.Answer

namespace MangaPress.Service

/-- A request to the service. -/
structure Request where
  method : Text
  target : Text
  contentType : Option Bytes := none
  body : Bytes := []
deriving Repr, DecidableEq, Inhabited

/-- The body of an answer. -/
inductive Body where
  | empty
  | text (t : Text)
  | json (v : Json.Value)
deriving Repr, Inhabited

/-- An answer of the service; `allow` lists the methods where the one of the request is not allowed. -/
structure Response where
  status : Nat := 200
  allow : Option (List Text) := none
  body : Body := .empty
deriving Repr, Inhabited

/-- The connection is closed without an answer, which is told by a status that no answer has. -/
def Response.closed : Response where
  status := 0

namespace MediaType

/-- The characters of the names in a media type. -/
def isNameChar (c : Char) : Bool :=
  c.isAlphanum || "!#$%&'+-.^_`|~".toList.contains c

/-- The characters of a quoted parameter value. -/
def isQuotedChar (c : Char) : Bool :=
  decide (0x20 ≤ c.toNat) && c.toNat != 0x7F

/-- Where in the parameters of a media type a reader stands. -/
inductive Place where
  | beforeName
  | inName
  | beforeValue
  | inValue
  | beforeQuoted
  | inQuoted
  | afterQuoted
deriving Repr, DecidableEq

/-- Whether the parameters of a media type are well-formed. -/
def parametersOk : Place → Text → Bool
  | place, [] =>
    match place with
    | .beforeName | .beforeValue | .inValue | .afterQuoted => true
    | _ => false
  | .beforeName, c :: rest =>
    if c == ' ' then parametersOk .beforeName rest
    else isNameChar c && parametersOk .inName rest
  | .inName, c :: rest =>
    if c == '=' then parametersOk .beforeValue rest
    else isNameChar c && parametersOk .inName rest
  | .beforeValue, c :: rest =>
    if c == '"' then parametersOk .beforeQuoted rest
    else isNameChar c && parametersOk .inValue rest
  | .inValue, c :: rest =>
    if c == ';' then parametersOk .beforeName rest
    else isNameChar c && parametersOk .inValue rest
  | .beforeQuoted, c :: rest => isQuotedChar c && parametersOk .inQuoted rest
  | .inQuoted, c :: rest =>
    if c == '"' then parametersOk .afterQuoted rest
    else isQuotedChar c && parametersOk .inQuoted rest
  | .afterQuoted, c :: rest =>
    if c == ';' then parametersOk .beforeName rest
    else c == ' ' && parametersOk .afterQuoted rest

/-- The subtype without its suffix, and the suffix after the last plus sign that does not begin the
subtype. -/
def splitSuffix (subtype : Text) : Text × Option Text :=
  match subtype with
  | [] => ([], none)
  | c :: rest =>
    let suffix := (rest.reverse.takeWhile (· != '+')).reverse
    if rest.contains '+' then (c :: rest.take (rest.length - suffix.length - 1), some suffix)
    else (c :: rest, none)

/-- Whether a media type is one of JSON: `application/json`, or `application/` with the suffix
`json`. -/
def isJson (t : Text) : Bool :=
  match Text.splitOnce '/' t with
  | none => false
  | some (type, rest) =>
    let subtype := rest.takeWhile (· != ';')
    let parameters := (rest.dropWhile (· != ';')).drop 1
    let (plain, suffix) := splitSuffix (subtype.map Char.toLower)
    type.map Char.toLower == "application".toList && !subtype.isEmpty &&
      subtype.all isNameChar && parametersOk .beforeName parameters &&
      (plain == "json".toList || suffix == some "json".toList)

end MediaType

/-- Whether the body of a request is declared to be JSON. -/
def Request.isJson (r : Request) : Bool :=
  ((r.contentType.bind Web.headerText?).map MediaType.isJson).getD false

/-- The path of a request's target, without its query. -/
def Request.path (r : Request) : Text :=
  r.target.takeWhile fun c => c != '?' && c != '#'

/-- The largest body that is read, in bytes. -/
def maxBodyLength : Nat := 2097152

/-- Why the body of a request is rejected. -/
inductive Rejection where
  | notJson
  | tooLong
  | malformed
  | mistyped
deriving Repr, DecidableEq

/-- What an answer that rejects a body says in any case. -/
def Rejection.text : Rejection → Text
  | notJson => "Expected request with `Content-Type: application/json`"
  | tooLong => "Failed to buffer the request body: length limit exceeded"
  | malformed => "Failed to parse the request body as JSON"
  | mistyped => "Failed to deserialize the JSON body into the target type"

/-- The status of an answer that rejects a body. -/
def Rejection.status : Rejection → Nat
  | notJson => 415
  | tooLong => 413
  | malformed => 400
  | mistyped => 422

/-- The answer that rejects a body. If it was read at all, what the reader says comes last. -/
def Rejection.response (detail : Text) (r : Rejection) : Response where
  status := r.status
  body := .text <|
    match r with
    | notJson | tooLong => r.text
    | malformed | mistyped => r.text ++ ": " ++ detail

/-- Reads the body of a request. -/
def Request.decode {α : Type} (decode : Json.Decoder α) (r : Request) : Except Rejection α :=
  if !r.isJson then .error .notJson
  else if maxBodyLength < r.body.length then .error .tooLong
  else
    match (Json.Document.ofSource (Json.Source.ofBytes r.body)).decodeFirst decode with
    | .ok v => .ok v
    | .error .malformed => .error .malformed
    | .error .mistyped => .error .mistyped

end MangaPress.Service
