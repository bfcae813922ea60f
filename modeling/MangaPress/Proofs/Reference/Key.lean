/-
# Keys are a normal form of names

A key is a text without white space and marks whose characters are their own upper case (`IsKey`).
The key of a name is such a text, and a text that is one is its own key: so taking keys twice is the
same as once. The key of a name is put together from the keys of its parts, and what has the empty
key can be put in anywhere. Two spellings of a name that differ in no more than this, or of which one
is the key of the other, have the same file, so the same image is found for both.

Key definitions: `Reference.IsKey`, `Reference.Strewn`, `Reference.Respelled`.
Key theorems: `Reference.key_eq_self_iff`, `Reference.key_append`, `Reference.key_of_strewn`,
`Reference.key_normal`.
-/
import MangaPress.Proofs.Reference.Name
import MangaPress.Reference.Load
import Mathlib.Data.List.Forall2

namespace MangaPress.Reference

/-- A text without white space and marks, all in upper case. -/
def IsKey (t : Text) : Prop :=
  ∀ c ∈ t, Text.isBlank c = false ∧ c ∉ marks ∧ Text.charUpperCase c = [c]

/-- The second text is the first with white space and marks put in anywhere. -/
inductive Strewn : Text → Text → Prop where
  | nil : Strewn [] []
  | keep (c : Char) {s t : Text} (h : Strewn s t) : Strewn (c :: s) (c :: t)
  | insert {c : Char} {s t : Text} (hc : Text.isBlank c = true ∨ c ∈ marks) (h : Strewn s t) :
    Strewn s (c :: t)

/-- The second name is the key of the first, or the first with white space and marks put in. -/
def Respelled (name name' : Text) : Prop :=
  name' = key name ∨ Strewn name name'

/-! ### Keys and their parts -/

theorem isKey_key (name : Text) : IsKey (key name) := by
  intro c hc
  obtain ⟨hblank, hmark⟩ := of_mem_key hc
  exact ⟨hblank, hmark, Text.charUpperCase_of_mem_upperCase hc⟩

/-- The texts that are their own key. -/
theorem key_eq_self_iff {t : Text} : key t = t ↔ IsKey t := by
  constructor
  · intro h
    rw [← h]
    exact isKey_key t
  · intro h
    have hfilter : t.filter (fun c => !Text.isBlank c && !isUnsafe c) = t := by
      rw [List.filter_eq_self]
      intro c hc
      obtain ⟨hblank, hmark, -⟩ := h c hc
      have hsafe : isUnsafe c = false := Bool.eq_false_iff.mpr (mt isUnsafe_iff.mp hmark)
      rw [hblank, hsafe]
      rfl
    rw [key, hfilter, Text.upperCase_eq_self_iff]
    exact fun c hc => (h c hc).2.2

theorem key_key (name : Text) : key (key name) = key name :=
  key_eq_self_iff.mpr (isKey_key name)

theorem key_append (a b : Text) : key (a ++ b) = key a ++ key b := by
  rw [key, List.filter_append, Text.upperCase, List.flatMap_append]
  rfl

/-- White space and marks have the empty key. -/
theorem key_singleton {c : Char} (hc : Text.isBlank c = true ∨ c ∈ marks) : key [c] = [] := by
  have hfilter : [c].filter (fun c => !Text.isBlank c && !isUnsafe c) = [] := by
    rw [← isUnsafe_iff] at hc
    rcases hc with hc | hc <;> simp [hc]
  rw [key, hfilter]
  rfl

theorem key_of_strewn {s t : Text} (h : Strewn s t) : key t = key s := by
  induction h with
  | nil => rfl
  | @keep c s t _ ih =>
    rw [← List.singleton_append, key_append, ih, ← key_append, List.singleton_append]
  | @insert c s t hc _ ih =>
    rw [← List.singleton_append, key_append, key_singleton hc, ih, List.nil_append]

/-! ### Names with the same key -/

theorem key_of_respelled {name name' : Text} (h : Respelled name name') : key name' = key name := by
  rcases h with rfl | h
  · exact key_key name
  · exact key_of_strewn h

theorem fileName_of_respelled {name name' : Text} (h : Respelled name name') :
    fileName name' = fileName name := by
  rw [fileName, key_of_respelled h, fileName]

theorem map_fileName_of_respelled {names names' : List Text}
    (h : List.Forall₂ Respelled names names') : names'.map fileName = names.map fileName := by
  induction h with
  | nil => rfl
  | cons h _ ih => rw [List.map_cons, List.map_cons, fileName_of_respelled h, ih]

/-- What is loaded depends on the names by way of their files. -/
theorem outcomes_load (store : Store) (names : List Text) :
    (load store names).map Loaded.outcome =
      (names.map fileName).map fun file => (store.content file).bind imageOf := by
  rw [load, List.map_map, List.map_map]
  rfl

theorem requests_eq (store : Store) (names : List Text) :
    requests store names = (names.map fileName).filterMap store.request? := by
  rw [requests, List.filterMap_map]
  rfl

/-- **Keys are a normal form of names.** The keys are the texts that are their own key, so the key of
a key is itself; and the key of a name is that of its parts, one after the other. Characters that are
called by their keys instead, or by names into which white space and marks are put, have the same
files, and whatever the store, the same is asked of it and found there. -/
theorem key_normal :
    (∀ name, IsKey (key name)) ∧ (∀ t, key t = t ↔ IsKey t) ∧
    (∀ name, key (key name) = key name) ∧
    (∀ a b, key (a ++ b) = key a ++ key b) ∧
    ∀ names names', List.Forall₂ Respelled names names' →
      names'.map fileName = names.map fileName ∧
      ∀ store, (load store names').map Loaded.outcome = (load store names).map Loaded.outcome ∧
        requests store names' = requests store names := by
  refine ⟨isKey_key, fun _ => key_eq_self_iff, key_key, key_append, fun names names' h => ?_⟩
  have hfiles := map_fileName_of_respelled h
  refine ⟨hfiles, fun store => ⟨?_, ?_⟩⟩
  · rw [outcomes_load, outcomes_load, hfiles]
  · rw [requests_eq, requests_eq, hfiles]

/-- A sharp s has two capital letters, and neither they nor a path before the name lead to another
file. -/
theorem files_of_respelled_names :
    ["STRASSE".toList, "../t e\\n".toList].map fileName =
      ["straße".toList, "ten".toList].map fileName := by
  have hkey : "STRASSE".toList = key "straße" := by decide +kernel
  have hten : Strewn "ten" "../t e\\n" :=
    .insert (.inr (by decide)) (.insert (.inr (by decide)) (.insert (.inr (by decide))
      (.keep 't' (.insert (.inl (by decide)) (.keep 'e' (.insert (.inr (by decide))
        (.keep 'n' .nil)))))))
  exact (key_normal.2.2.2.2 _ _ (.cons (.inl hkey) (.cons (.inr hten) .nil))).1

end MangaPress.Reference
