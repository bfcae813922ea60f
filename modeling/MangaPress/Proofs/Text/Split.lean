/-
# Joining and splitting

`Text.joinWith` and `Text.splitOn` are `List.intercalate` and `List.splitOn` on characters, so
pieces without the separator are what splitting their joined text gives back. A choice of the pieces
joins to a choice of the characters.

Key theorems: `Text.joinWith_eq_intercalate`, `Text.splitOn_eq_splitOn`,
`Text.not_mem_of_mem_splitOn`, `Text.splitOnce_eq_some_iff`, `Text.append_cons_inj`,
`Text.joinWith_sublist`.
-/
import MangaPress.Text.Basic

namespace MangaPress.Text

theorem joinWith_eq_intercalate (separator : Text) :
    ∀ ts : List Text, joinWith separator ts = separator.intercalate ts
  | [] => rfl
  | [t] => List.intercalate_singleton.symm
  | t :: u :: ts => by
    rw [joinWith_cons_cons, joinWith_eq_intercalate separator (u :: ts),
      List.intercalate_cons_cons]

theorem splitOn_eq_splitOn (c : Char) : ∀ t : Text, splitOn c t = List.splitOn c t
  | [] => rfl
  | d :: rest => by
    have ih := splitOn_eq_splitOn c rest
    rw [splitOn, List.splitOn_cons_eq_if_modifyHead, ← ih]
    by_cases hd : d = c
    · rw [if_pos hd, if_pos (beq_iff_eq.mpr hd)]
    · rw [if_neg hd, if_neg (by simpa using hd)]
      cases hs : splitOn c rest with
      | nil => exact absurd (ih.symm.trans hs) (List.splitOn_ne_nil c rest)
      | cons piece pieces => rfl

theorem not_mem_of_mem_splitOn {c : Char} : ∀ {t piece : Text}, piece ∈ splitOn c t → c ∉ piece
  | [], piece, h => by
    rw [List.mem_singleton.mp h]
    exact List.not_mem_nil
  | d :: rest, piece, h => by
    unfold splitOn at h
    by_cases hd : d = c
    · rw [if_pos hd] at h
      rcases List.mem_cons.mp h with rfl | h
      · exact List.not_mem_nil
      · exact not_mem_of_mem_splitOn h
    · rw [if_neg hd] at h
      have ih : ∀ p ∈ splitOn c rest, c ∉ p := fun p hp => not_mem_of_mem_splitOn hp
      cases hs : splitOn c rest with
      | nil =>
        rw [hs] at h
        rw [List.mem_singleton.mp h, List.mem_singleton]
        exact Ne.symm hd
      | cons first others =>
        rw [hs] at h ih
        rcases List.mem_cons.mp h with rfl | h
        · rw [List.mem_cons]
          rintro (he | he)
          · exact hd he.symm
          · exact ih first List.mem_cons_self he
        · exact ih piece (List.mem_cons_of_mem _ h)

theorem joinWith_splitOn (c : Char) (t : Text) : joinWith [c] (splitOn c t) = t := by
  rw [joinWith_eq_intercalate, splitOn_eq_splitOn, List.intercalate_splitOn]

theorem splitOn_joinWith {c : Char} {ts : List Text} (h : ∀ t ∈ ts, c ∉ t) (hne : ts ≠ []) :
    splitOn c (joinWith [c] ts) = ts := by
  rw [joinWith_eq_intercalate, splitOn_eq_splitOn, List.splitOn_intercalate c h hne]

/-- A text splits at the first separator. -/
theorem splitOnce_append {c : Char} {before : Text} (h : c ∉ before) (after : Text) :
    splitOnce c (before ++ c :: after) = some (before, after) := by
  induction before with
  | nil => simp [splitOnce]
  | cons d rest ih =>
    obtain ⟨hd, hb⟩ := not_or.mp (mt List.mem_cons.mpr h)
    rw [List.cons_append, splitOnce, if_neg (Ne.symm hd), ih hb]
    rfl

theorem not_mem_of_splitOnce {c : Char} {after : Text} : ∀ {t before : Text},
    splitOnce c t = some (before, after) → c ∉ before
  | [], _, h => nomatch h
  | d :: t, before, h => by
    unfold splitOnce at h
    split at h
    · cases h
      exact List.not_mem_nil
    · rename_i hd
      obtain ⟨⟨b, a⟩, hs, he⟩ := Option.map_eq_some_iff.mp h
      cases he
      exact mt List.mem_cons.mp (not_or.mpr ⟨Ne.symm hd, not_mem_of_splitOnce hs⟩)

theorem splitOnce_eq_some_iff {c : Char} {t before after : Text} :
    splitOnce c t = some (before, after) ↔ t = before ++ c :: after ∧ c ∉ before := by
  constructor
  · exact fun h => ⟨splitOnce_eq_some h, not_mem_of_splitOnce h⟩
  · rintro ⟨rfl, h⟩
    exact splitOnce_append h after

/-- A text is known by what stands before its first `c` and what after it. -/
theorem append_cons_inj {c : Char} {before before' after after' : Text} (h : c ∉ before)
    (h' : c ∉ before') (heq : before ++ c :: after = before' ++ c :: after') :
    before = before' ∧ after = after' := by
  have hsplit := congrArg (splitOnce c) heq
  rw [splitOnce_append h, splitOnce_append h'] at hsplit
  exact Prod.mk.inj (Option.some.inj hsplit)

/-- A choice of the pieces joins to a choice of the characters. -/
theorem joinWith_sublist (separator : Text) {ts us : List Text} (h : ts.Sublist us) :
    (joinWith separator ts).Sublist (joinWith separator us) := by
  induction h with
  | slnil => exact List.Sublist.refl _
  | @cons ts us u h ih =>
    cases us with
    | nil =>
      rw [List.sublist_nil.mp h]
      exact List.nil_sublist _
    | cons v us =>
      rw [joinWith_cons_cons]
      exact ih.trans (List.sublist_append_right _ _)
  | @cons_cons ts us u h ih =>
    cases ts with
    | nil =>
      cases us with
      | nil => exact List.Sublist.refl _
      | cons v us =>
        rw [joinWith_cons_cons, List.append_assoc]
        exact List.sublist_append_left _ _
    | cons t ts =>
      cases us with
      | nil => exact absurd (List.sublist_nil.mp h) (List.cons_ne_nil _ _)
      | cons v us =>
        rw [joinWith_cons_cons, joinWith_cons_cons]
        exact (List.Sublist.refl _).append ih

end MangaPress.Text
