/-
# A template and its filling, piece by piece

A template is a row of segments: literals, which hold no opening brace, and placeholders, whose keys
hold no closing brace and have values. Filling such a template fills each segment on its own
(`fill_written`): the literals stand as they are, every placeholder gives way to the value of its
key, and what the values hold is never looked at.

Key definitions: `Segment`, `Segment.written`, `Segment.filled`, `Segment.Fits`.
Key theorems: `fill_written`.
-/
import MangaPress.Page.Template
import MangaPress.Proofs.Text.Split

namespace MangaPress

namespace Template

/-- A piece of a template. -/
inductive Segment where
  | literal (t : Text)
  | placeholder (key : Text)
deriving Repr, DecidableEq

namespace Segment

/-- The segment as it stands in a template. -/
def written : Segment → Text
  | literal t => t
  | placeholder key => '\x7b' :: key ++ ['\x7d']

/-- What a segment is filled with: of two values with one key the first counts. -/
def filled (values : List (Text × Text)) : Segment → Text
  | literal t => t
  | placeholder key => (values.lookup key).getD []

/-- The segment can be told from what stands around it, and has a value. -/
def Fits (keys : List Text) : Segment → Prop
  | literal t => '\x7b' ∉ t
  | placeholder key => key ∈ keys ∧ '\x7d' ∉ key

instance (keys : List Text) : DecidablePred (Fits keys)
  | literal t => inferInstanceAs (Decidable ('\x7b' ∉ t))
  | placeholder key => inferInstanceAs (Decidable (key ∈ keys ∧ '\x7d' ∉ key))

end Segment

open Segment

variable {values : List (Text × Text)}

@[simp]
theorem fill_nil : fill values [] = [] := by
  rw [fill]

theorem fill_cons_of_ne {c : Char} (h : c ≠ '\x7b') (rest : Text) :
    fill values (c :: rest) = c :: fill values rest := by
  rw [fill, if_neg h]

/-- A text without an opening brace is passed through. -/
theorem fill_literal_append : ∀ {t : Text}, '\x7b' ∉ t → ∀ rest,
    fill values (t ++ rest) = t ++ fill values rest
  | [], _, _ => rfl
  | c :: t, h, rest => by
    obtain ⟨hc, ht⟩ := not_or.mp (mt List.mem_cons.mpr h)
    rw [List.cons_append, fill_cons_of_ne (Ne.symm hc), fill_literal_append ht rest,
      List.cons_append]

/-- A placeholder gives way to its value, and filling goes on after it. -/
theorem fill_placeholder_append {key value : Text} (hk : '\x7d' ∉ key)
    (hv : values.lookup key = some value) (rest : Text) :
    fill values (written (.placeholder key) ++ rest) = value ++ fill values rest := by
  have hp : placeholder? values (key ++ '\x7d' :: rest) = some (value, rest) := by
    rw [placeholder?, Text.splitOnce_append hk]
    simp only [hv, Option.map_some]
  have hw : written (.placeholder key) ++ rest = '\x7b' :: (key ++ '\x7d' :: rest) := by
    simp [written]
  rw [hw, fill, if_pos rfl]
  split
  · rename_i v after h
    rw [hp] at h
    obtain ⟨rfl, rfl⟩ := Prod.mk.inj (Option.some.inj h)
    rfl
  · rename_i h
    rw [hp] at h
    cases h

/-- A key with a value is found. -/
theorem exists_lookup {key : Text} (h : key ∈ values.map Prod.fst) :
    ∃ value, values.lookup key = some value := by
  have hs : (values.lookup key).isSome := by
    rw [List.lookup_isSome_iff]
    obtain ⟨pair, hp, rfl⟩ := List.mem_map.mp h
    exact ⟨pair, hp, beq_self_eq_true _⟩
  exact Option.isSome_iff_exists.mp hs

/-- One segment is filled on its own, whatever stands after it. -/
theorem fill_segment_append {s : Segment} (h : s.Fits (values.map Prod.fst)) (rest : Text) :
    fill values (s.written ++ rest) = s.filled values ++ fill values rest := by
  cases s with
  | literal t => exact fill_literal_append h rest
  | placeholder key =>
    obtain ⟨value, hv⟩ := exists_lookup h.1
    rw [fill_placeholder_append h.2 hv, filled, hv, Option.getD_some]

/-- **A template is filled segment by segment.** Literals stand as they are, each placeholder gives
way to the value of its key, and no value is read again. -/
theorem fill_written : ∀ {segments : List Segment},
    (∀ s ∈ segments, s.Fits (values.map Prod.fst)) →
    fill values (segments.flatMap written) = segments.flatMap (filled values)
  | [], _ => fill_nil
  | s :: segments, h => by
    have hs := h s List.mem_cons_self
    have hrest := fun s' hs' => h s' (List.mem_cons_of_mem _ hs')
    rw [List.flatMap_cons, List.flatMap_cons, fill_segment_append hs, fill_written hrest]

end Template

end MangaPress
