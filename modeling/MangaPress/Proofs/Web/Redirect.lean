/-
# Following answers

The requests that a client makes because answers point elsewhere are a chain: each one is where the
answer to the one before it points (`Chain`). Only an answer that keeps the body has something posted
again, and it is what was posted at first. Where an answer points is read against scheme, host and
path of the address that was asked; the query of that address goes into it only if the answer names
the same place again (`Url.join_of_samePlace`).

Key definitions: `Answer.RepeatsPost`, `Chain`, `Reaction.Related`, `Url.SamePlace`.
Key theorems: `Asked.after_eq_follow_iff`, `Chain.posted`, `Chain.posts_nothing`,
`Url.join_of_samePlace`.
-/
import MangaPress.Web.Redirect

namespace MangaPress.Web

/-! ### One answer -/

/-- The client posts again where the answer points. -/
def Answer.RepeatsPost : Answer → Prop
  | .redirect _ status _ _ _ => keepsBody status = true
  | _ => False

theorem Asked.after_eq_follow_iff {asked next : Asked} {answer : Answer} :
    asked.after answer = .follow next ↔
      ∃ location status contentType body complete url,
        answer = .redirect location status contentType body complete ∧ isRedirect status = true ∧
        asked.url.join location = .address url ∧
        next = { url, posted := if keepsBody status then asked.posted else none } := by
  constructor
  · intro h
    cases answer with
    | lost => cases h
    | reply status contentType body complete => cases h
    | redirect location status contentType body complete =>
      unfold Asked.after at h
      dsimp only at h
      split at h
      · cases hjoin : asked.url.join location with
        | address url =>
          rw [hjoin] at h
          cases h
          exact ⟨_, _, _, _, _, url, rfl, ‹_›, hjoin, rfl⟩
        | foreign =>
          rw [hjoin] at h
          cases h
        | unreadable =>
          rw [hjoin] at h
          cases h
      · cases h
  · rintro ⟨location, status, contentType, body, complete, url, rfl, hstatus, hjoin, rfl⟩
    unfold Asked.after
    dsimp only
    rw [if_pos hstatus, hjoin]

theorem Asked.after_reply (asked : Asked) (status : Nat) (contentType : Option Bytes) (body : Bytes)
    (complete : Bool) :
    asked.after (.reply status contentType body complete) =
      .take (.reply status contentType body complete) := rfl

/-- What is posted to the next place was posted before. -/
theorem Asked.posted_of_follow {asked next : Asked} {answer : Answer}
    (h : asked.after answer = .follow next) :
    next.posted = none ∨ next.posted = asked.posted ∧ answer.RepeatsPost := by
  obtain ⟨_, status, _, _, _, _, rfl, -, -, rfl⟩ := Asked.after_eq_follow_iff.mp h
  dsimp only
  split
  · exact .inr ⟨rfl, ‹_›⟩
  · exact .inl rfl

/-! ### Chains -/

/-- The requests in order that a client makes since each answer points to the next place. The request
that begins the chain was answered by `answer`, and `answers` are in store for those that follow. -/
inductive Chain : Asked → Answer → Answers → List Asked → Prop where
  | stop (asked : Asked) (answer : Answer) (answers : Answers) : Chain asked answer answers []
  | step {asked next : Asked} {answer : Answer} {answers : Answers} {trail : List Asked}
    (follow : asked.after answer = .follow next)
    (rest : Chain next answers.next.1 answers.next.2 trail) :
    Chain asked answer answers (next :: trail)

namespace Chain

variable {asked : Asked} {answer : Answer} {answers : Answers} {trail : List Asked}

/-- All that is posted on the way is what was posted at first. -/
theorem posted (h : Chain asked answer answers trail) :
    ∀ a ∈ trail, a.posted = none ∨ a.posted = asked.posted := by
  induction h with
  | stop => exact fun a ha => absurd ha List.not_mem_nil
  | step follow _ ih =>
    intro a ha
    have hnext := Asked.posted_of_follow follow
    rcases List.mem_cons.mp ha with rfl | ha
    · exact hnext.imp_right And.left
    · rcases ih a ha with hnone | hsame
      · exact .inl hnone
      · rw [hsame]
        exact hnext.imp_right And.left

end Chain

theorem Answers.mem_next {answers : Answers} {a : Answer} (h : a ∈ answers.next.2) :
    a ∈ answers := by
  match answers with
  | [] => exact h
  | [_] => exact h
  | _ :: _ :: _ => exact List.mem_cons_of_mem _ h

/-- Without answers that keep the body, the next one does not keep it. -/
theorem Answers.next_posts_nothing {answers : Answers} (h : ∀ a ∈ answers, ¬ a.RepeatsPost) :
    ¬ answers.next.1.RepeatsPost := by
  match answers with
  | [] => exact id
  | [_] => exact h _ List.mem_cons_self
  | _ :: _ :: _ => exact h _ List.mem_cons_self

/-- Nothing is posted on the way without an answer that keeps the body. -/
theorem Chain.posts_nothing {asked : Asked} {answer : Answer} {answers : Answers}
    {trail : List Asked} (h : Chain asked answer answers trail) (hanswer : ¬ answer.RepeatsPost)
    (hanswers : ∀ a ∈ answers, ¬ a.RepeatsPost) : ∀ a ∈ trail, a.posted = none := by
  induction h with
  | stop => exact fun a ha => absurd ha List.not_mem_nil
  | @step asked next answer answers trail follow rest ih =>
    have hrest := ih (Answers.next_posts_nothing hanswers)
      fun a ha => hanswers a (Answers.mem_next ha)
    intro a ha
    rcases List.mem_cons.mp ha with rfl | ha
    · exact (Asked.posted_of_follow follow).resolve_right fun h => hanswer h.2
    · exact hrest a ha

/-! ### Requests that differ in their address -/

/-- The same answer is taken, or requests are made that are related. -/
inductive Reaction.Related (P : Asked → Asked → Prop) : Reaction → Reaction → Prop where
  | take (answer : Answer) : Reaction.Related P (.take answer) (.take answer)
  | follow {next next' : Asked} (h : P next next') :
    Reaction.Related P (.follow next) (.follow next')

namespace Url

/-- Two addresses that differ in their queries at most. -/
structure SamePlace (u u' : Url) : Prop where
  secure : u.secure = u'.secure
  authority : u.authority = u'.authority
  segments : u.segments = u'.segments

theorem samePlace_addPair (u : Url) (name value value' : Text) :
    (u.addPair name value).SamePlace (u.addPair name value') := by
  unfold addPair
  cases u.query with
  | none => exact ⟨rfl, rfl, rfl⟩
  | some query => cases query <;> exact ⟨rfl, rfl, rfl⟩

variable {u u' : Url}

theorem joinRelative_of_samePlace (h : u.SamePlace u') (t : Text) :
    u.joinRelative t = .address u ∧ u'.joinRelative t = .address u' ∨
      u.joinRelative t = u'.joinRelative t := by
  have hscheme : u.scheme = u'.scheme := by rw [scheme, scheme, h.secure]
  have hpath : u.path = u'.path := by rw [path, path, h.segments]
  unfold joinRelative
  simp only [hscheme, hpath, h.authority, h.segments]
  split
  · exact .inl ⟨rfl, rfl⟩
  · exact .inl ⟨rfl, rfl⟩
  · exact .inr rfl
  · exact .inr rfl

/-- The query of the address that was asked counts only for a reference to the same place. -/
theorem join_of_samePlace (h : u.SamePlace u') (reference : Text) :
    u.join reference = .address u ∧ u'.join reference = .address u' ∨
      u.join reference = u'.join reference := by
  have hscheme : u.scheme = u'.scheme := by rw [scheme, scheme, h.secure]
  unfold join
  dsimp only
  rw [hscheme]
  cases splitScheme? (cleaned reference) with
  | none => exact joinRelative_of_samePlace h _
  | some p =>
    obtain ⟨name, rest⟩ := p
    dsimp only
    by_cases hsame : name = u'.scheme ∧ (rest.takeWhile isSlash).length < 2
    · rw [if_pos hsame, if_pos hsame]
      exact joinRelative_of_samePlace h rest
    · rw [if_neg hsame, if_neg hsame]
      exact .inr rfl

end Url

end MangaPress.Web
