/-
# Trimmed texts

A text is bare if no white space stands at its ends. Trimming makes a text bare and leaves a bare
text as it is, so trimming twice is trimming once.

Key definition: `Text.Bare`.
Key theorems: `Text.trim_bare`, `Text.Bare.trim_eq`, `Text.trim_trim`.
-/
import MangaPress.Text.Blank
import Mathlib.Data.List.DropRight

namespace MangaPress.Text

/-- No white space stands at the ends. -/
structure Bare (t : Text) : Prop where
  head : ∀ c ∈ t.head?, isBlank c = false
  last : ∀ c ∈ t.getLast?, isBlank c = false

theorem dropEndWhile_eq_rdropWhile (p : Char → Bool) : ∀ t, dropEndWhile p t = t.rdropWhile p
  | [] => rfl
  | c :: rest => by
    have ih := dropEndWhile_eq_rdropWhile p rest
    rw [dropEndWhile, ih, List.rdropWhile, List.rdropWhile, List.reverse_cons,
      List.dropWhile_append]
    cases h : (rest.reverse.dropWhile p) with
    | nil => cases hc : p c <;> simp [hc]
    | cons d ds =>
      cases hr : (d :: ds).reverse with
      | nil => simp at hr
      | cons e es => simp_all

theorem trim_eq (t : Text) : trim t = (t.dropWhile isBlank).rdropWhile isBlank :=
  dropEndWhile_eq_rdropWhile _ _

theorem trim_bare (t : Text) : (trim t).Bare where
  head := by
    intro c hc
    rw [trim_eq] at hc
    have hprefix := List.rdropWhile_prefix isBlank (t.dropWhile isBlank)
    obtain ⟨rest, hrest⟩ := hprefix
    have hhead : (t.dropWhile isBlank).head? = some c := by
      rw [← hrest, List.head?_append, hc]
      rfl
    cases hb : isBlank c with
    | false => rfl
    | true =>
      have := List.head?_dropWhile_not isBlank t
      rw [hhead] at this
      simp_all
  last := by
    intro c hc
    rw [trim_eq, List.rdropWhile, List.getLast?_reverse] at hc
    have := List.head?_dropWhile_not isBlank (t.dropWhile isBlank).reverse
    rw [hc] at this
    simp_all

theorem trim_sublist (t : Text) : (trim t).Sublist t := by
  rw [trim_eq]
  exact (List.rdropWhile_prefix _ _).sublist.trans (List.dropWhile_sublist _)

/-- A bare text has nothing to trim. -/
theorem Bare.trim_eq {t : Text} (h : t.Bare) : trim t = t := by
  have hd : t.dropWhile isBlank = t := by
    cases t with
    | nil => rfl
    | cons c rest => exact List.dropWhile_cons_of_neg (by simp [h.head c rfl])
  rw [Text.trim_eq, hd, List.rdropWhile]
  have hr : t.reverse.dropWhile isBlank = t.reverse := by
    have hlast := h.last
    rw [← List.head?_reverse] at hlast
    cases hs : t.reverse with
    | nil => rfl
    | cons c rest =>
      rw [hs] at hlast
      exact List.dropWhile_cons_of_neg (by simp [hlast c rfl])
  rw [hr, List.reverse_reverse]

@[simp]
theorem trim_trim (t : Text) : trim (trim t) = trim t :=
  (trim_bare t).trim_eq

end MangaPress.Text
