/-
# Answers that point elsewhere

A client that asked for something follows an answer which says where to ask instead. Where the status
only tells the new place (307, 308), what was posted is posted there as well; with the others (301, 302,
303) the new place is asked without a body. After so many answers of this kind in a row the client
gives up, and nothing has come back.

Key definitions: `Asked`, `Asked.after`, `maxRedirects`, `fetch`.
-/
import MangaPress.Web.Answer
import MangaPress.Web.Url

namespace MangaPress.Web

/-- A request: something is posted to an address, or else the address is asked for what it has. -/
structure Asked where
  url : Url
  posted : Option Text := none
deriving Repr, DecidableEq

/-- The most answers in a row that are followed. -/
def maxRedirects : Nat := 10

/-- Whether what was posted is posted again. -/
def keepsBody (status : Nat) : Bool :=
  status == 307 || status == 308

/-- Whether an answer with the status is followed. -/
def isRedirect (status : Nat) : Bool :=
  status == 301 || status == 302 || status == 303 || keepsBody status

/-- What a client does with an answer. -/
inductive Reaction where
  | take (answer : Answer)
  | follow (next : Asked)
deriving Repr, DecidableEq

/-- What a client does with the answer to a request. An address that cannot be read does not count. -/
def Asked.after (asked : Asked) (answer : Answer) : Reaction :=
  match answer with
  | .redirect location status _ _ _ =>
    if isRedirect status then
      match asked.url.join location with
      | .address url => .follow { url, posted := if keepsBody status then asked.posted else none }
      | .foreign => .take .lost
      | .unreadable => .take answer.here
    else .take answer.here
  | _ => .take answer

/-- What comes of a request to servers that give these answers, when at most `n` of them are
followed. -/
def fetchWithin (answer : Url → Answer) (n : Nat) (asked : Asked) : Answer :=
  match asked.after (answer asked.url), n with
  | .take answer, _ => answer
  | .follow _, 0 => .lost
  | .follow next, n + 1 => fetchWithin answer n next

/-- What comes of asking for an address. -/
def fetch (answer : Url → Answer) (url : Url) : Answer :=
  fetchWithin answer maxRedirects { url }

end MangaPress.Web
