/-
# Filling a template

A placeholder is a key between braces. `fill` reads the template once from left to right: an
opening brace begins a placeholder iff the text up to the next closing brace is a known key, and
then the key's value stands in its place and reading goes on after the closing brace; every other
brace stands for itself. Values are never read again, so a value that looks like a placeholder
stays as it is. Of two pairs with one key the first counts.

Key definitions: `Template.placeholder?`, `Template.fill`.
-/
import MangaPress.Text.Basic

namespace MangaPress.Template

/-- The value of the placeholder whose opening brace stands just before the text, and what follows
its closing brace. -/
def placeholder? (values : List (Text × Text)) (t : Text) : Option (Text × Text) :=
  match Text.splitOnce '\x7d' t with
  | none => none
  | some (key, rest) => (values.lookup key).map fun value => (value, rest)

theorem placeholder?_length {values : List (Text × Text)} {t value rest : Text}
    (h : placeholder? values t = some (value, rest)) : rest.length < t.length := by
  unfold placeholder? at h
  split at h
  · simp at h
  · rename_i key after hs
    simp only [Option.map_eq_some_iff, Prod.mk.injEq] at h
    obtain ⟨_, _, _, rfl⟩ := h
    rw [Text.splitOnce_eq_some hs]
    simp
    omega

/-- The template with the value of each known key in place of its placeholders. -/
def fill (values : List (Text × Text)) (template : Text) : Text :=
  match template with
  | [] => []
  | c :: rest =>
    if c = '\x7b' then
      match _h : placeholder? values rest with
      | some (value, after) => value ++ fill values after
      | none => c :: fill values rest
    else c :: fill values rest
termination_by template.length
decreasing_by
  all_goals simp only [List.length_cons]
  · have := placeholder?_length _h
    omega
  · omega
  · omega

end MangaPress.Template
