/-
# Results that agree

Two results agree up to a relation of values if both are the same error or both are values that are
related. What goes on from results that agree and treats related values alike agrees again. Operations
that change a state give it beside their result; such pairs are related part by part (`Both`).

Key definitions: `Agree`, `Both`.
Key theorems: `Agree.map`, `Agree.bind`, `agree_eq_iff`, `mapM_eq_ok_iff`.
-/
import MangaPress.Text.Basic
import Mathlib.Data.List.Forall2

namespace MangaPress

variable {ε α β γ δ : Type}

/-- The same error, or related values. -/
inductive Agree (R : α → β → Prop) : Except ε α → Except ε β → Prop where
  | error (e : ε) : Agree R (.error e) (.error e)
  | ok {a : α} {b : β} (h : R a b) : Agree R (.ok a) (.ok b)

theorem agree_eq_iff {x y : Except ε α} : Agree Eq x y ↔ x = y := by
  constructor
  · rintro (_ | rfl) <;> rfl
  · rintro rfl
    cases x with
    | error e => exact .error e
    | ok a => exact .ok rfl

/-- A result with a value is that value. -/
theorem eq_ok_of_toOption {x : Except ε α} {a : α} (h : x.toOption = some a) : x = .ok a := by
  cases x with
  | error e => cases h
  | ok b => exact congrArg Except.ok (Option.some.inj h)

theorem mapM_cons_eq (read : α → Except ε β) (v : α) (vs : List α) :
    (v :: vs).mapM read = (read v).bind fun a => (vs.mapM read).map (a :: ·) := by
  rw [List.mapM_cons]
  cases read v with
  | error e => rfl
  | ok a => cases vs.mapM read <;> rfl

/-- Values are read one by one. -/
theorem mapM_eq_ok_iff {read : α → Except ε β} : ∀ {vs : List α} {as : List β},
    vs.mapM read = .ok as ↔ List.Forall₂ (fun v a => read v = .ok a) vs as
  | [], as => by
    rw [List.mapM_nil, List.forall₂_nil_left_iff]
    exact ⟨fun h => (Except.ok.inj h).symm, fun h => congrArg Except.ok h.symm⟩
  | v :: vs, as => by
    have ih : ∀ rest, vs.mapM read = .ok rest ↔ List.Forall₂ (fun v a => read v = .ok a) vs rest :=
      fun rest => mapM_eq_ok_iff
    rw [mapM_cons_eq, List.forall₂_cons_left_iff]
    simp only [← ih]
    cases read v with
    | error e => simp [Except.bind]
    | ok a => cases vs.mapM read <;> simp [Except.bind, Except.map, eq_comm]

namespace Agree

variable {R R' : α → β → Prop} {Q : γ → δ → Prop} {x : Except ε α} {y : Except ε β}

theorem refl {R : α → α → Prop} (h : ∀ a, R a a) (x : Except ε α) : Agree R x x := by
  cases x with
  | error e => exact .error e
  | ok a => exact .ok (h a)

theorem mono (h : Agree R x y) (hR : ∀ a b, R a b → R' a b) : Agree R' x y := by
  cases h with
  | error e => exact .error e
  | ok h => exact .ok (hR _ _ h)

theorem map (h : Agree R x y) {f : α → γ} {g : β → δ} (hfg : ∀ a b, R a b → Q (f a) (g b)) :
    Agree Q (x.map f) (y.map g) := by
  cases h with
  | error e => exact .error e
  | ok h => exact .ok (hfg _ _ h)

theorem map_right (h : Agree R x y) {P : α → γ → Prop} {g : β → γ} (hg : ∀ a b, R a b → P a (g b)) :
    Agree P x (y.map g) := by
  cases h with
  | error e => exact .error e
  | ok h => exact .ok (hg _ _ h)

theorem bind (h : Agree R x y) {f : α → Except ε γ} {g : β → Except ε δ}
    (hfg : ∀ a b, R a b → Agree Q (f a) (g b)) : Agree Q (x.bind f) (y.bind g) := by
  cases h with
  | error e => exact .error e
  | ok h => exact hfg _ _ h

end Agree

/-- Pairs whose parts are related. -/
inductive Both (R : α → α → Prop) (Q : β → β → Prop) : α × β → α × β → Prop where
  | intro {a a' : α} {b b' : β} (left : R a a') (right : Q b b') : Both R Q (a, b) (a', b')

namespace Both

variable {R : α → α → Prop} {Q : β → β → Prop} {x y : α × β}

theorem fst (h : Both R Q x y) : R x.1 y.1 := by
  cases h with
  | intro left _ => exact left

theorem snd (h : Both R Q x y) : Q x.2 y.2 := by
  cases h with
  | intro _ right => exact right

end Both

end MangaPress
