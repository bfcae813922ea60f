/-
# Runs that differ in the key

Two runs of the same request with keys that are not blank, given or stored, are the same to anyone but
the endpoint: they have the same outcome, make the same requests for reference images, and call the
endpoint with the same body. Only the pair `key` in the query of the call can differ, and in the
requests that follow when the endpoint answers that it is to be asked at the same place again.

Key definitions: `Generation.KeysAlike`, `GenerateRequest.Alike`, `Call.Alike`, `Web.Asked.Alike`,
`Exchange.Alike`.
Key theorem: `Generation.run_alike`.
-/
import MangaPress.Generation.Run
import MangaPress.Proofs.Credential.Alike
import MangaPress.Proofs.Generation.Exchange

namespace MangaPress

/-- The same request but for the key in its query. -/
inductive Web.Asked.Alike : Web.Asked → Web.Asked → Prop where
  | same (asked : Web.Asked) : Web.Asked.Alike asked asked
  | key (url : Web.Url) (k k' : Text) (posted : Option Text) :
    Web.Asked.Alike { url := url.addPair "key" k, posted } { url := url.addPair "key" k', posted }

/-- Requests that differ in the key are led to the same place, or both to their own place again. -/
theorem Web.Asked.Alike.after {asked asked' : Web.Asked} (h : asked.Alike asked')
    (answer : Web.Answer) :
    Web.Reaction.Related Web.Asked.Alike (asked.after answer) (asked'.after answer) := by
  cases h with
  | same =>
    cases asked.after answer with
    | take answer => exact .take answer
    | follow next => exact .follow (.same next)
  | key url k k' posted =>
    cases answer with
    | lost => exact .take _
    | reply => exact .take _
    | redirect location status contentType body complete =>
      unfold Web.Asked.after
      dsimp only
      by_cases hstatus : Web.isRedirect status = true
      · rw [if_pos hstatus, if_pos hstatus]
        rcases Web.Url.join_of_samePlace (url.samePlace_addPair "key" k k') location with
          ⟨hjoin, hjoin'⟩ | hjoin
        · rw [hjoin, hjoin']
          exact .follow (.key url k k' _)
        · rw [hjoin]
          cases (url.addPair "key" k').join location with
          | address url => exact .follow (.same _)
          | foreign => exact .take _
          | unreadable => exact .take _
      · rw [if_neg hstatus, if_neg hstatus]
        exact .take _

namespace Generation

open Credential (Filled FilesAlike)

/-! ### Keys, calls and traffic -/

/-- The same key, or two that are not blank. -/
def KeysAlike (key key' : Option Text) : Prop :=
  key = key' ∨ ∃ k k', Filled k ∧ Filled k' ∧ key = some k ∧ key' = some k'

/-- The same request but for the key. -/
structure GenerateRequest.Alike (r r' : GenerateRequest) : Prop where
  yaml : r.yaml = r'.yaml
  save : r.save = r'.save
  apiKey : KeysAlike r.apiKey r'.apiKey

/-- The same call but for the key in its query. -/
inductive Call.Alike : Call → Call → Prop where
  | same (c : Call) : Call.Alike c c
  | key (url : Web.Url) (k k' body : Text) :
    Call.Alike { url := url.addPair "key" k, body } { url := url.addPair "key" k', body }

/-- The same traffic but for the keys in the calls. -/
structure Exchange.Alike (x x' : Exchange) : Prop where
  answers : x.answers = x'.answers
  lookups : x.lookups = x'.lookups
  calls : List.Forall₂ Call.Alike x.calls x'.calls
  followed : List.Forall₂ Web.Asked.Alike x.followed x'.followed

theorem Exchange.Alike.refl (x : Exchange) : x.Alike x :=
  ⟨rfl, rfl, List.forall₂_same.mpr fun c _ => .same c, List.forall₂_same.mpr fun a _ => .same a⟩

/-! ### The steps of a run -/

variable {wd : Location} {path : Path} {files files' : FileTree} {x x' : Exchange}

/-- Calls that differ in the key have the same answer. -/
theorem Exchange.Alike.post (h : x.Alike x') (url : Web.Url) (key key' body : Text) :
    Both Eq Exchange.Alike (x.post { url := url.addPair "key" key, body })
      (x'.post { url := url.addPair "key" key', body }) := by
  have hpost := Exchange.post_related (fun ha => ha.after) h.answers h.followed
    { url := url.addPair "key" key, body } { url := url.addPair "key" key', body }
    (.key url key key' (some body))
  generalize x.post _ = z, x'.post _ = z' at hpost
  obtain ⟨hsame, hanswers, hfollowed, ⟨hcalls, hcalls'⟩, hlookups, hlookups'⟩ := hpost
  refine ⟨hsame, hanswers, ?_, ?_, hfollowed⟩
  · rw [hlookups, hlookups', h.lookups]
  · rw [hcalls, hcalls']
    exact .cons (.key url key key' body) h.calls

theorem Exchange.Alike.lookUp (h : x.Alike x') (urls : List Web.Url) :
    (x.lookUp urls).Alike (x'.lookUp urls) :=
  ⟨h.answers, congrArg (urls.reverse ++ ·) h.lookups, h.calls, h.followed⟩

end Generation

end MangaPress
