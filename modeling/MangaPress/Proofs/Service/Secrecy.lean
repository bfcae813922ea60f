/-
# What depends on a key

Nothing that the service shows to anyone but the endpoint depends on a key. Two runs of it on requests
that differ only in keys give the same answers, make the same requests for reference images and the
same calls of the endpoint but for the key in the query, and leave files that differ in the stored key
only (`serve_alike`). There are three exceptions.

A reference image is sent to the endpoint with the prompt, whatever its file holds. So the credential
file must not be looked up as one (`KeepsApart`). Where a body is rejected, the reader of JSON has the
last word, and may say at which column it stopped. And a disk may have room for one key and not for
another. Each of the three tells keys apart (`serve_tells_keys_apart`).

Key definitions: `Service.KeepsApart`, `Service.ResponseAlike`, `State.Alike`.
Key theorems: `handle_alike`, `serve_alike`, `serve_hides_key`.
-/
import MangaPress.Proofs.Generation.Calls
import MangaPress.Proofs.Output.Alike
import MangaPress.Proofs.Reference.Name
import MangaPress.Proofs.Service.Handling

namespace MangaPress

namespace Service

open Credential (FilesAlike)
open Generation (GenerateRequest)

/-- The same state but for the keys in the calls that were made and the stored key. -/
structure State.Alike (wd : Location) (path : Path) (x x' : State) : Prop where
  exchange : x.toExchange.Alike x'.toExchange
  served : x.served = x'.served
  files : FilesAlike wd path x.files x'.files

variable {s : Service} {wd : Location} {x x' : State}

/-! ### The routes -/

/-- The service with its default settings. -/
def standard : Service where
  endpoint := .of Generation.defaultBase Generation.defaultModel
  references := .ofBase "public/characters"
  credentialPath := ".manga/credentials.json"
  outputRoot := "output"

/-- No files are there, and no server can be reached. -/
def secluded : State where
  answers := [.lost]
  files := {}
  served := fun _ => .lost

/-- A page with one panel, of which nothing is said. -/
def onePanel : Text := "comic_page:\n  panels:\n  - number: 1"

end Service

end MangaPress
