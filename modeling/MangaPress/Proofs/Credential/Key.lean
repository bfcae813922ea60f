/-
# Keys as they are stored

A key is stored and given out trimmed, unless it is blank. What is given out was stored under the
name of the key.

Key definition: `Credential.Filled`.
Key theorems: `Credential.trimmed?_eq_some_iff`, `Credential.trimmed?_of_filled`,
`Credential.load_eq_ok_iff`.
-/
import MangaPress.Credential
import MangaPress.Proofs.Text.Trim

namespace MangaPress.Credential

/-- The text is not blank. -/
def Filled (key : Text) : Prop :=
  Text.trim key ≠ []

instance (key : Text) : Decidable (Filled key) :=
  inferInstanceAs (Decidable (Text.trim key ≠ []))

/-- A key that is stored has something in it, and no white space at its ends. -/
theorem trimmed?_eq_some_iff {key stored : Text} :
    trimmed? stored = some key ↔ Text.trim stored = key ∧ key ≠ [] := by
  unfold trimmed?
  cases h : Text.trim stored with
  | nil => simp +contextual [eq_comm]
  | cons c rest => simp +contextual [eq_comm]

theorem trimmed?_eq_none_iff {stored : Text} : trimmed? stored = none ↔ Text.trim stored = [] := by
  unfold trimmed?
  cases h : Text.trim stored <;> simp

theorem trimmed?_of_filled {key : Text} (h : Filled key) : trimmed? key = some (Text.trim key) :=
  trimmed?_eq_some_iff.mpr ⟨rfl, h⟩

theorem filled_trim {key : Text} (h : Filled key) : Filled (Text.trim key) := by
  rwa [Filled, Text.trim_trim]

theorem load_eq_ok_iff {files : FileTree} {path : Path} {key : Option Text} :
    load files path = .ok key ↔
      ∃ entries, readEntries files path = .ok entries ∧
        (entries.lookup entryName).bind trimmed? = key := by
  unfold load
  cases readEntries files path <;> simp [Except.map]

end MangaPress.Credential
