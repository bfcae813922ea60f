/-
# Answers

What comes back from another server: an answer with its status, media type and body, or nothing.
The body of an answer may break off before its announced end; then only the status is known. An
answer may also name an address where to ask instead.

Key definitions: `Answer`, `Answer.here`, `Answers.next`, `reasonOf?`.
-/
import MangaPress.Text.Basic

namespace MangaPress.Web

/-- What comes back from a request. -/
inductive Answer where
  /-- The connection failed or was closed without an answer. -/
  | lost
  /-- An answer; `complete` says whether its body came to its announced end. -/
  | reply (status : Nat) (contentType : Option Bytes) (body : Bytes) (complete : Bool)
  /-- An answer that names an address in a text of its own. -/
  | redirect (location : Text) (status : Nat) (contentType : Option Bytes) (body : Bytes)
    (complete : Bool)
deriving Repr, DecidableEq, Inhabited

/-- The answer without the address that it names. -/
def Answer.here : Answer → Answer
  | .redirect _ status contentType body complete => .reply status contentType body complete
  | answer => answer

/-- The answers that a server has in store. They are given in order, and the last one again and
again. -/
abbrev Answers := List Answer

/-- The answer to the next request, and what is then in store. A server without answers knows of
nothing. -/
def Answers.next : Answers → Answer × Answers
  | [] => (.reply 404 none [] true, [])
  | [a] => (a, [a])
  | a :: rest => (a, rest)

/-- Whether a status says that the request succeeded. -/
def isSuccess (status : Nat) : Bool :=
  decide (200 ≤ status) && decide (status < 300)

/-- A header value as a text: it has one if its bytes are visible characters of ASCII, spaces and
tabs. -/
def headerText? (value : Bytes) : Option Text :=
  if value.all fun b => (0x20 ≤ b && b < 0x7F) || b == 0x09 then
    some (value.map fun b => Char.ofNat b.toNat)
  else none

/-- The usual wording of a status. -/
def reasonOf? (status : Nat) : Option Text :=
  match status with
  | 100 => some "Continue"
  | 101 => some "Switching Protocols"
  | 102 => some "Processing"
  | 200 => some "OK"
  | 201 => some "Created"
  | 202 => some "Accepted"
  | 203 => some "Non Authoritative Information"
  | 204 => some "No Content"
  | 205 => some "Reset Content"
  | 206 => some "Partial Content"
  | 207 => some "Multi-Status"
  | 208 => some "Already Reported"
  | 226 => some "IM Used"
  | 300 => some "Multiple Choices"
  | 301 => some "Moved Permanently"
  | 302 => some "Found"
  | 303 => some "See Other"
  | 304 => some "Not Modified"
  | 305 => some "Use Proxy"
  | 307 => some "Temporary Redirect"
  | 308 => some "Permanent Redirect"
  | 400 => some "Bad Request"
  | 401 => some "Unauthorized"
  | 402 => some "Payment Required"
  | 403 => some "Forbidden"
  | 404 => some "Not Found"
  | 405 => some "Method Not Allowed"
  | 406 => some "Not Acceptable"
  | 407 => some "Proxy Authentication Required"
  | 408 => some "Request Timeout"
  | 409 => some "Conflict"
  | 410 => some "Gone"
  | 411 => some "Length Required"
  | 412 => some "Precondition Failed"
  | 413 => some "Payload Too Large"
  | 414 => some "URI Too Long"
  | 415 => some "Unsupported Media Type"
  | 416 => some "Range Not Satisfiable"
  | 417 => some "Expectation Failed"
  | 418 => some "I'm a teapot"
  | 421 => some "Misdirected Request"
  | 422 => some "Unprocessable Entity"
  | 423 => some "Locked"
  | 424 => some "Failed Dependency"
  | 425 => some "Too Early"
  | 426 => some "Upgrade Required"
  | 428 => some "Precondition Required"
  | 429 => some "Too Many Requests"
  | 431 => some "Request Header Fields Too Large"
  | 451 => some "Unavailable For Legal Reasons"
  | 500 => some "Internal Server Error"
  | 501 => some "Not Implemented"
  | 502 => some "Bad Gateway"
  | 503 => some "Service Unavailable"
  | 504 => some "Gateway Timeout"
  | 505 => some "HTTP Version Not Supported"
  | 506 => some "Variant Also Negotiates"
  | 507 => some "Insufficient Storage"
  | 508 => some "Loop Detected"
  | 510 => some "Not Extended"
  | 511 => some "Network Authentication Required"
  | _ => none

end MangaPress.Web
