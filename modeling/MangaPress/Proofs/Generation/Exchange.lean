/-
# What a call does to the traffic

A call is noted once, and the next answer in store goes to it. If that answer is taken, this is all;
if it points elsewhere, a chain of requests follows until one is answered for good or so many were
followed that the client gives up. Calls whose chains go the same way bring the same answer and leave
the same in store.

Key definitions: `Exchange.posts`.
Key theorems: `Exchange.settle_chain`, `Exchange.calls_post`, `Exchange.lookups_post`,
`Exchange.post_chain`, `Exchange.post_of_reply`, `Exchange.posts_post`,
`Exchange.posts_post_of_follow`, `Exchange.post_related`.
-/
import MangaPress.Generation.Endpoint
import MangaPress.Proofs.Agree
import MangaPress.Proofs.Web.Redirect

namespace MangaPress.Generation.Exchange

open Web (Asked Answer Chain Reaction)

/-- How often something was posted, whether by a call or since an answer pointed elsewhere. -/
def posts (x : Exchange) : Nat :=
  x.calls.length + (x.followed.filter fun a => a.posted.isSome).length

/-! ### From an answer to the one that is taken -/

/-- An answer that is taken ends it. -/
theorem settle_of_take {asked : Asked} {answer taken : Answer} (h : asked.after answer = .take taken)
    (n : Nat) (x : Exchange) : x.settle n asked answer = (taken, x) := by
  unfold settle
  rw [h]

/-- An answer that is followed makes for the next request. -/
theorem settle_of_follow {asked next : Asked} {answer : Answer} (h : asked.after answer = .follow next)
    (n : Nat) (x : Exchange) :
    x.settle (n + 1) asked answer =
      settle n { x with answers := x.answers.next.2, followed := next :: x.followed } next
        x.answers.next.1 := by
  conv_lhs => unfold settle
  rw [h]

/-- The requests that follow are a chain, and no longer than what is still to be followed; but for them
and the answers that they use up, all stays as it is. -/
theorem settle_chain (n : Nat) (x : Exchange) (asked : Asked) (answer : Answer) :
    ∃ trail left, (x.settle n asked answer).2 =
        { x with answers := left, followed := trail.reverse ++ x.followed } ∧
      trail.length ≤ n ∧ Chain asked answer x.answers trail := by
  induction n generalizing x asked answer with
  | zero =>
    refine ⟨[], x.answers, ?_, Nat.le_refl 0, .stop _ _ _⟩
    unfold settle
    cases asked.after answer <;> rfl
  | succ n ih =>
    cases hafter : asked.after answer with
    | take taken =>
      rw [settle_of_take hafter]
      exact ⟨[], x.answers, rfl, Nat.zero_le _, .stop _ _ _⟩
    | follow next =>
      obtain ⟨trail, left, hsettled, hlength, hchain⟩ := ih
        { x with answers := x.answers.next.2, followed := next :: x.followed } next
        x.answers.next.1
      refine ⟨next :: trail, left, ?_, Nat.succ_le_succ hlength, .step hafter hchain⟩
      rw [settle_of_follow hafter, hsettled, List.reverse_cons, List.append_assoc]
      rfl

/-! ### A call -/

/-- A call is noted, and the requests that follow it are a chain that begins with it. -/
theorem post_chain (x : Exchange) (call : Call) :
    ∃ trail left, (x.post call).2 =
        { x with
          answers := left, calls := call :: x.calls, followed := trail.reverse ++ x.followed } ∧
      trail.length ≤ Web.maxRedirects ∧
      Chain { url := call.url, posted := some call.body } x.answers.next.1 x.answers.next.2 trail :=
  settle_chain _ _ _ _

theorem calls_post (x : Exchange) (call : Call) : (x.post call).2.calls = call :: x.calls := by
  obtain ⟨trail, left, hpost, -⟩ := post_chain x call
  rw [hpost]

theorem lookups_post (x : Exchange) (call : Call) : (x.post call).2.lookups = x.lookups := by
  obtain ⟨trail, left, hpost, -⟩ := post_chain x call
  rw [hpost]

/-- An answer that names no other place is the answer to the call. -/
theorem post_of_reply {x : Exchange} {status : Nat} {contentType : Option Bytes} {body : Bytes}
    {complete : Bool} (h : x.answers.next.1 = .reply status contentType body complete) (call : Call) :
    x.post call = (.reply status contentType body complete,
      { x with answers := x.answers.next.2, calls := call :: x.calls }) := by
  unfold post
  dsimp only
  rw [h, settle_of_take (Asked.after_reply _ _ _ _ _)]

/-- A call posts once if no answer keeps the body. -/
theorem posts_post {x : Exchange} (h : ∀ a ∈ x.answers, ¬ a.RepeatsPost) (call : Call) :
    (x.post call).2.posts = x.posts + 1 := by
  obtain ⟨trail, left, hpost, -, hchain⟩ := post_chain x call
  have hnone : trail.reverse.filter (fun a => a.posted.isSome) = [] := by
    have hquiet := hchain.posts_nothing (Web.Answers.next_posts_nothing h)
      fun a ha => h a (Web.Answers.mem_next ha)
    refine List.filter_eq_nil_iff.mpr fun a ha => ?_
    rw [hquiet a (List.mem_reverse.mp ha)]
    exact Bool.false_ne_true
  simp only [hpost, posts, List.filter_append, hnone, List.nil_append, List.length_cons]
  omega

theorem le_posts_settle (n : Nat) (x : Exchange) (asked : Asked) (answer : Answer) :
    x.posts ≤ (x.settle n asked answer).2.posts := by
  obtain ⟨trail, left, hsettled, -⟩ := settle_chain n x asked answer
  simp only [hsettled, posts, List.filter_append, List.length_append]
  omega

/-- A call posts more than once if its first answer has it posted elsewhere. -/
theorem posts_post_of_follow (x : Exchange) (call : Call) {next : Asked}
    (h : (Asked.mk call.url (some call.body)).after x.answers.next.1 = .follow next)
    (hposted : next.posted.isSome = true) : x.posts + 1 < (x.post call).2.posts := by
  unfold post
  dsimp only
  rw [Web.maxRedirects, settle_of_follow h]
  refine Nat.lt_of_lt_of_le ?_ (le_posts_settle _ _ _ _)
  simp only [posts, List.filter_cons, hposted, if_true, List.length_cons]
  omega

/-! ### Two exchanges -/

/-- Chains that go the same way bring the same answer. -/
theorem settle_related {P : Asked → Asked → Prop}
    (hstep : ∀ {asked asked'}, P asked asked' → ∀ answer,
      Reaction.Related P (asked.after answer) (asked'.after answer))
    (n : Nat) {x x' : Exchange} (hanswers : x.answers = x'.answers)
    (hfollowed : List.Forall₂ P x.followed x'.followed) {asked asked' : Asked} (h : P asked asked')
    (answer : Answer) :
    Both Eq (fun y y' => y.answers = y'.answers ∧ List.Forall₂ P y.followed y'.followed)
      (x.settle n asked answer) (x'.settle n asked' answer) := by
  induction n generalizing x x' asked asked' answer with
  | zero =>
    have hreaction := hstep h answer
    unfold settle
    generalize asked.after answer = r, asked'.after answer = r' at hreaction
    cases hreaction <;> exact ⟨rfl, hanswers, hfollowed⟩
  | succ n ih =>
    have hreaction := hstep h answer
    unfold settle
    generalize asked.after answer = r, asked'.after answer = r' at hreaction
    cases hreaction with
    | take answer => exact ⟨rfl, hanswers, hfollowed⟩
    | follow hnext =>
      dsimp only
      rw [← hanswers]
      refine ih ?_ ?_ hnext _
      · rfl
      · exact .cons hnext hfollowed

/-- Calls that are led the same way bring the same answer, and what is noted of each is the call and
what followed. -/
theorem post_related {P : Asked → Asked → Prop}
    (hstep : ∀ {asked asked'}, P asked asked' → ∀ answer,
      Reaction.Related P (asked.after answer) (asked'.after answer))
    {x x' : Exchange} (hanswers : x.answers = x'.answers)
    (hfollowed : List.Forall₂ P x.followed x'.followed) (call call' : Call)
    (h : P { url := call.url, posted := some call.body }
      { url := call'.url, posted := some call'.body }) :
    Both Eq (fun y y' => y.answers = y'.answers ∧ List.Forall₂ P y.followed y'.followed ∧
        (y.calls = call :: x.calls ∧ y'.calls = call' :: x'.calls) ∧
        y.lookups = x.lookups ∧ y'.lookups = x'.lookups)
      (x.post call) (x'.post call') := by
  have hcalls : (x.post call).2.calls = call :: x.calls ∧
      (x'.post call').2.calls = call' :: x'.calls := ⟨calls_post _ _, calls_post _ _⟩
  have hlookups : (x.post call).2.lookups = x.lookups ∧
      (x'.post call').2.lookups = x'.lookups := ⟨lookups_post _ _, lookups_post _ _⟩
  have hsettled : Both Eq (fun y y' => y.answers = y'.answers ∧ List.Forall₂ P y.followed y'.followed)
      (x.post call) (x'.post call') := by
    unfold post
    dsimp only
    rw [← hanswers]
    refine settle_related hstep _ ?_ ?_ h _
    · rfl
    · exact hfollowed
  generalize x.post call = z, x'.post call' = z' at hcalls hlookups hsettled
  obtain ⟨hsame, hafter⟩ := hsettled
  exact ⟨hsame, hafter.1, hafter.2, hcalls, hlookups⟩

end MangaPress.Generation.Exchange
