/-
# Every template has one segmentation

An opening brace opens a placeholder iff the text up to the next closing brace is one of the keys
(`Opens`). A template is therefore cut, from left to right, into literals whose braces open nothing
and placeholders, and it can be cut in one way only as long as literals are not cut any further
(`Segmentation.unique`): a literal ends where the first brace after it opens a placeholder. The
values have no part in this. Filling the template is filling its segments (`fill_of_segmentation`),
so what the values hold is never read again, and all braces in literals stay.

Key definitions: `Opens`, `Segmentation`.
Key theorems: `exists_segmentation`, `Segmentation.unique`, `fill_of_segmentation`,
`fill_single_pass`.
-/
import MangaPress.Proofs.Template
import Mathlib.Data.List.Basic

namespace MangaPress

namespace Template

open Segment

/-- An opening brace before the text opens a placeholder: what stands before the next closing brace
is one of the keys. -/
def Opens (keys : List Text) (t : Text) : Prop :=
  ∃ key ∈ keys, '\x7d' ∉ key ∧ ∃ rest, t = key ++ '\x7d' :: rest

/-- A template cut from left to right. After a placeholder it goes on behind the closing brace, after
a brace that opens none right behind that brace; a literal is as long as it can be. -/
inductive Segmentation (keys : List Text) : Text → List Segment → Prop where
  | nil : Segmentation keys [] []
  | literal {t rest : Text} {segments : List Segment} (hne : t ≠ [])
    (hbraces : ∀ u v, t = u ++ '\x7b' :: v → ¬ Opens keys (v ++ rest))
    (hmax : ∀ t', segments.head? ≠ some (.literal t')) (h : Segmentation keys rest segments) :
    Segmentation keys (t ++ rest) (.literal t :: segments)
  | placeholder {key rest : Text} {segments : List Segment} (hkey : key ∈ keys)
    (hclosed : '\x7d' ∉ key) (h : Segmentation keys rest segments) :
    Segmentation keys (written (.placeholder key) ++ rest) (.placeholder key :: segments)

variable {keys : List Text} {values : List (Text × Text)} {template t rest : Text}
  {segments segments' : List Segment}

theorem not_opens {key : Text} (hclosed : '\x7d' ∉ key) (hkey : key ∉ keys) :
    ¬ Opens keys (key ++ '\x7d' :: rest) := by
  rintro ⟨key', hkey', hclosed', rest', heq⟩
  obtain ⟨rfl, -⟩ := Text.append_cons_inj hclosed hclosed' heq
  exact hkey hkey'

theorem written_placeholder_append (key rest : Text) :
    written (.placeholder key) ++ rest = '\x7b' :: (key ++ '\x7d' :: rest) := by
  simp [written]

/-! ### There is a segmentation -/

/-- A character that opens no placeholder stands before a segmentation or in its first literal. -/
theorem Segmentation.exists_cons {c : Char} (hc : c = '\x7b' → ¬ Opens keys rest)
    (h : Segmentation keys rest segments) :
    ∃ segments', Segmentation keys (c :: rest) segments' := by
  -- On its own the character is a literal wherever no literal follows.
  have hone : (∀ t', segments.head? ≠ some (.literal t')) →
      Segmentation keys ([c] ++ rest) (.literal [c] :: segments) := by
    intro hmax
    refine .literal (List.cons_ne_nil c []) (fun u v huv => ?_) hmax h
    obtain ⟨rfl, hcons⟩ := List.singleton_eq_append_iff.mp huv |>.resolve_right (by simp)
    obtain ⟨rfl, rfl⟩ := List.cons.inj hcons
    exact hc rfl
  cases h with
  | nil => exact ⟨_, hone nofun⟩
  | placeholder hkey hclosed h => exact ⟨_, hone nofun⟩
  | @literal t rest segments hne hbraces hmax h =>
    refine ⟨.literal (c :: t) :: segments, ?_⟩
    rw [← List.cons_append]
    refine .literal (List.cons_ne_nil c t) (fun u v huv => ?_) hmax h
    cases u with
    | nil =>
      obtain ⟨rfl, rfl⟩ := List.cons.inj huv
      exact hc rfl
    | cons d u => exact hbraces u v (List.cons.inj huv).2

theorem exists_segmentation (keys : List Text) :
    ∀ template, ∃ segments, Segmentation keys template segments
  | [] => ⟨[], .nil⟩
  | c :: rest => by
    by_cases hopens : c = '\x7b' ∧ Opens keys rest
    · obtain ⟨hc, key, hkey, hclosed, after, hrest⟩ := hopens
      have hshorter : after.length < (c :: rest).length := by
        rw [hrest, List.length_cons, List.length_append, List.length_cons]
        omega
      obtain ⟨segments, h⟩ := exists_segmentation keys after
      rw [hc, hrest, ← written_placeholder_append]
      exact ⟨_, .placeholder hkey hclosed h⟩
    · obtain ⟨segments, h⟩ := exists_segmentation keys rest
      exact h.exists_cons fun hc hopen => hopens ⟨hc, hopen⟩
termination_by template => template.length

/-! ### There is no other -/

/-- Where no literal begins, a placeholder does. -/
theorem Segmentation.opens (h : Segmentation keys t segments)
    (hmax : ∀ t', segments.head? ≠ some (.literal t')) (hne : t ≠ []) :
    ∃ v, t = '\x7b' :: v ∧ Opens keys v := by
  cases h with
  | nil => exact absurd rfl hne
  | literal => exact absurd rfl (hmax _)
  | placeholder hkey hclosed _ =>
    exact ⟨_, written_placeholder_append _ _, _, hkey, hclosed, _, rfl⟩

/-- A literal does not go on into a placeholder. -/
theorem length_literal_le {t t' rest rest' : Text}
    (hbraces : ∀ u v, t' = u ++ '\x7b' :: v → ¬ Opens keys (v ++ rest'))
    (hmax : ∀ t', segments.head? ≠ some (.literal t')) (h : Segmentation keys rest segments)
    (heq : t ++ rest = t' ++ rest') : t'.length ≤ t.length := by
  by_contra hlt
  obtain ⟨w, rfl, rfl⟩ | ⟨w, rfl, rfl⟩ := List.append_eq_append_iff.mp heq
  · cases w with
    | nil => simp at hlt
    | cons c w =>
      obtain ⟨v, hv, hopens⟩ := h.opens hmax (List.cons_ne_nil _ _)
      obtain ⟨rfl, rfl⟩ := List.cons.inj hv
      exact hbraces t w rfl hopens
  · simp at hlt

theorem written_placeholder_inj {key key' rest rest' : Text} (hclosed : '\x7d' ∉ key)
    (hclosed' : '\x7d' ∉ key')
    (h : written (.placeholder key) ++ rest = written (.placeholder key') ++ rest') :
    key = key' ∧ rest = rest' := by
  rw [written_placeholder_append, written_placeholder_append] at h
  exact Text.append_cons_inj hclosed hclosed' (List.cons.inj h).2

/-- What begins with a placeholder does not begin with a literal. -/
theorem written_placeholder_ne {key t rest rest' : Text} (hkey : key ∈ keys)
    (hclosed : '\x7d' ∉ key) (hne : t ≠ [])
    (hbraces : ∀ u v, t = u ++ '\x7b' :: v → ¬ Opens keys (v ++ rest')) :
    written (.placeholder key) ++ rest ≠ t ++ rest' := by
  intro heq
  obtain ⟨c, v, rfl⟩ := List.exists_cons_of_ne_nil hne
  rw [written_placeholder_append, List.cons_append] at heq
  obtain ⟨rfl, hv⟩ := List.cons.inj heq
  exact hbraces [] v rfl ⟨key, hkey, hclosed, rest, hv.symm⟩

theorem Segmentation.unique (h : Segmentation keys template segments) :
    Segmentation keys template segments' → segments = segments' := by
  suffices hall : ∀ {template' : Text} {segments' : List Segment},
      Segmentation keys template' segments' → template = template' → segments = segments' from
    fun h' => hall h' rfl
  induction h with
  | nil =>
    intro template' segments' h' heq
    cases h' with
    | nil => rfl
    | literal hne => exact absurd (List.append_eq_nil_iff.mp heq.symm).1 hne
    | placeholder => cases heq
  | @literal t rest segments hne hbraces hmax h ih =>
    intro template' segments' h' heq
    cases h' with
    | nil => exact absurd (List.append_eq_nil_iff.mp heq).1 hne
    | @literal t' rest' _ _ hbraces' hmax' h' =>
      have hlength : t.length = t'.length := Nat.le_antisymm
        (length_literal_le hbraces hmax' h' heq.symm) (length_literal_le hbraces' hmax h heq)
      obtain ⟨rfl, hrest⟩ := List.append_inj heq hlength
      rw [ih h' hrest]
    | placeholder hkey hclosed =>
      exact absurd heq.symm (written_placeholder_ne hkey hclosed hne hbraces)
  | @placeholder key rest segments hkey hclosed h ih =>
    intro template' segments' h' heq
    cases h' with
    | nil => cases heq
    | literal hne hbraces => exact absurd heq (written_placeholder_ne hkey hclosed hne hbraces)
    | placeholder _ hclosed' h' =>
      obtain ⟨rfl, hrest⟩ := written_placeholder_inj hclosed hclosed' heq
      rw [ih h' hrest]

/-! ### Nothing is lost -/

theorem Segmentation.flatMap_written (h : Segmentation keys template segments) :
    segments.flatMap written = template := by
  induction h with
  | nil => rfl
  | literal _ _ _ _ ih => rw [List.flatMap_cons, ih]; rfl
  | placeholder _ _ _ ih => rw [List.flatMap_cons, ih]

/-- Every segment takes at least one character of the template. -/
theorem Segmentation.length_le (h : Segmentation keys template segments) :
    segments.length ≤ template.length := by
  induction h with
  | nil => exact Nat.le_refl 0
  | literal hne _ _ _ ih =>
    have hpos := List.length_pos_iff.mpr hne
    rw [List.length_cons, List.length_append]
    omega
  | placeholder _ _ _ ih =>
    rw [written_placeholder_append, List.length_cons, List.length_cons, List.length_append,
      List.length_cons]
    omega

/-! ### Filling a segmentation -/

theorem placeholder?_eq_none (h : ¬ Opens (values.map Prod.fst) t) :
    placeholder? values t = none := by
  unfold placeholder?
  split
  · rfl
  · rename_i key rest hsplit
    obtain ⟨rfl, hclosed⟩ := Text.splitOnce_eq_some_iff.mp hsplit
    rw [Option.map_eq_none_iff, ← Option.not_isSome_iff_eq_none, List.lookup_isSome_iff]
    rintro ⟨pair, hpair, hkey⟩
    exact h ⟨key, List.mem_map.mpr ⟨pair, hpair, (beq_iff_eq.mp hkey).symm⟩, hclosed, rest, rfl⟩

/-- A brace that opens no placeholder is passed through. -/
theorem fill_stray (h : ¬ Opens (values.map Prod.fst) rest) :
    fill values ('\x7b' :: rest) = '\x7b' :: fill values rest := by
  rw [fill, if_pos rfl, placeholder?_eq_none h]

/-- A text whose braces open no placeholder is passed through. -/
theorem fill_append_of_not_opens : ∀ {t : Text},
    (∀ u v, t = u ++ '\x7b' :: v → ¬ Opens (values.map Prod.fst) (v ++ rest)) →
    fill values (t ++ rest) = t ++ fill values rest
  | [], _ => rfl
  | c :: t, h => by
    have ih : fill values (t ++ rest) = t ++ fill values rest :=
      fill_append_of_not_opens fun u v huv => h (c :: u) v (congrArg (c :: ·) huv)
    rw [List.cons_append, List.cons_append, ← ih]
    by_cases hc : c = '\x7b'
    · subst hc
      exact fill_stray (h [] t rfl)
    · exact fill_cons_of_ne hc _

/-- Filling a template is filling its segments, whatever the values of the keys. -/
theorem fill_of_segmentation (h : Segmentation (values.map Prod.fst) template segments) :
    fill values template = segments.flatMap (filled values) := by
  induction h with
  | nil => exact fill_nil
  | literal _ hbraces _ _ ih => rw [fill_append_of_not_opens hbraces, ih, List.flatMap_cons, filled]
  | placeholder hkey hclosed _ ih =>
    have hfits : Fits (values.map Prod.fst) (.placeholder _) := ⟨hkey, hclosed⟩
    rw [fill_segment_append hfits, ih, List.flatMap_cons]

/-- **Filling is one pass over one segmentation.** For every template and all keys there is one way
to cut the template into literals and placeholders, in at most as many segments as it has characters,
and they put it together again. Whatever values the keys have, the literals stay as they are, and in
the place of each placeholder stands the value of the first pair with its key. -/
theorem fill_single_pass (keys : List Text) (template : Text) :
    ∃! segments, Segmentation keys template segments ∧
      segments.flatMap written = template ∧ segments.length ≤ template.length ∧
      ∀ values : List (Text × Text), values.map Prod.fst = keys →
        fill values template = segments.flatMap (filled values) := by
  obtain ⟨segments, h⟩ := exists_segmentation keys template
  refine ⟨segments, ⟨h, h.flatMap_written, h.length_le, ?_⟩, fun _ h' => h'.1.unique h⟩
  rintro values rfl
  exact fill_of_segmentation h

/-- Of two pairs of braces the inner one is a placeholder, and that its value looks like another
placeholder makes no difference. -/
theorem fill_of_nested_braces :
    fill [("x", "\x7by\x7d"), ("y", "Y")] "\x7b\x7bx\x7d\x7d" = "\x7b\x7by\x7d\x7d".toList := by
  obtain ⟨segments, ⟨hsegments, -, -, hfill⟩, -⟩ :=
    fill_single_pass ["x", "y"] "\x7b\x7bx\x7d\x7d"
  have hlast : Segmentation ["x", "y"] (['\x7d'] ++ []) [.literal ['\x7d']] := by
    refine .literal (by decide) (fun u v huv => ?_) nofun .nil
    have hbrace : '\x7b' ∈ ['\x7d'] := by rw [huv]; simp
    exact absurd hbrace (by decide)
  have hkey : Segmentation ["x", "y"] (written (.placeholder "x") ++ (['\x7d'] ++ []))
      [.placeholder "x", .literal ['\x7d']] := .placeholder (by decide) (by decide) hlast
  have hinner : Segmentation ["x", "y"] (['\x7b'] ++ (written (.placeholder "x") ++ (['\x7d'] ++ [])))
      [.literal ['\x7b'], .placeholder "x", .literal ['\x7d']] := by
    refine .literal (by decide) (fun u v huv => ?_) nofun hkey
    obtain ⟨rfl, hv⟩ := List.singleton_eq_append_iff.mp huv |>.resolve_right (by simp)
    obtain rfl := (List.cons.inj hv).2
    have houter : ¬ Opens ["x", "y"] (['\x7b', 'x'] ++ '\x7d' :: ['\x7d']) :=
      not_opens (by decide) (by decide)
    exact houter
  rw [hfill [("x", "\x7by\x7d"), ("y", "Y")] rfl, hsegments.unique hinner]
  rfl

end Template

end MangaPress
