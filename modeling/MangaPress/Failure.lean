/-
# Failures

A `Failure` is what a request to this program can come to instead of a result. Each kind has a code
and a status for clients over HTTP, a wording for users, which gives away nothing about the inside
of the program, and a full wording.

Key definitions: `GenerationError`, `Failure`, `Failure.userMessage`, `Failure.message`,
`Failure.code`, `Failure.status`.
-/
import MangaPress.Credential
import MangaPress.Page.Markup

namespace MangaPress

/-- Why the generation endpoint gave no image. -/
inductive GenerationError where
  /-- The endpoint could not be asked, or its answer did not arrive. -/
  | transport
  /-- The endpoint answered with a status that is no success. -/
  | refused (status : Nat) (message : Text)
  /-- The answer could not be read. -/
  | malformed
  /-- The answer holds no image. -/
  | noImage
deriving Repr, DecidableEq

/-- The wording of the error: for a refusal what the endpoint says. -/
def GenerationError.message : GenerationError → Text
  | transport => "HTTP error"
  | refused _ message => message
  | malformed => "JSON parse error"
  | noImage => "API response did not contain image data"

/-- What a request comes to instead of a result. -/
inductive Failure where
  | validation (message : Text)
  | generation (e : GenerationError)
  | credential (message : Text)
  | internal (message : Text)
deriving Repr, DecidableEq

namespace Failure

/-- A text that is no page document is the fault of the request. -/
def ofMarkup (e : MarkupError) : Failure :=
  .validation e.message

/-- A blank key is the fault of the request; all else is one of the store. -/
def ofCredential : CredentialError → Failure
  | .emptyKey => .validation CredentialError.emptyKey.message
  | e => .credential e.message

/-- What users are told. -/
def userMessage : Failure → Text
  | validation message => message
  | generation e => e.message
  | credential _ => "The credential store could not be accessed"
  | internal _ => "An internal server error occurred"

/-- The full wording. -/
def message : Failure → Text
  | validation message => "Validation error: " ++ message
  | generation e => "Generation error: " ++ e.message
  | credential message => "Credential store error: " ++ message
  | internal message => "Internal server error: " ++ message

/-- The code for clients. -/
def code : Failure → Text
  | validation _ => "VALIDATION_ERROR"
  | generation (.refused _ _) => "GENERATION_ERROR"
  | generation .noImage => "NO_IMAGE"
  | generation _ => "GENERATION_UNAVAILABLE"
  | credential _ => "CREDENTIAL_ERROR"
  | internal _ => "INTERNAL_ERROR"

/-- The status for clients. -/
def status : Failure → Nat
  | validation _ => 400
  | generation _ => 502
  | credential _ => 500
  | internal _ => 500

/-- The body of the answer to a client. -/
def wire (f : Failure) : Json.Value :=
  .ofFields [("error", some (.ofFields
    [("code", some (.string f.code)), ("message", some (.string f.userMessage))]))]

end Failure

end MangaPress
