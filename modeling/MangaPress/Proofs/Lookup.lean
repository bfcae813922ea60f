/-
# Looking up in association lists

What is found under a key once an entry is put before others or the entries of a key are left out.
-/
import Mathlib.Data.List.Basic

namespace MangaPress

variable {α β : Type} [DecidableEq α] [BEq α] [LawfulBEq α]

theorem lookup_cons_eq_ite (a : α) (entry : α × β) (entries : List (α × β)) :
    (entry :: entries).lookup a = if a = entry.1 then some entry.2 else entries.lookup a := by
  by_cases h : a = entry.1
  · rw [if_pos h, h, List.lookup_cons_self]
  · rw [if_neg h, List.lookup_cons, beq_eq_false_iff_ne.mpr h]

theorem lookup_filter_ne (a b : α) : ∀ entries : List (α × β),
    (entries.filter fun entry => entry.1 != b).lookup a =
      if a = b then none else entries.lookup a
  | [] => by
    by_cases h : a = b
    · rw [if_pos h]
      rfl
    · rw [if_neg h]
      rfl
  | entry :: entries => by
    have ih := lookup_filter_ne a b entries
    by_cases he : entry.1 = b
    · rw [List.filter_cons_of_neg (by simp [he]), ih, lookup_cons_eq_ite, he]
      by_cases h : a = b
      · rw [if_pos h, if_pos h]
      · rw [if_neg h, if_neg h, if_neg h]
    · rw [List.filter_cons_of_pos (by simp [he]), lookup_cons_eq_ite, ih, lookup_cons_eq_ite]
      by_cases h : a = entry.1
      · rw [if_pos h, if_neg (fun hb => he (h.symm.trans hb)), if_pos h]
      · rw [if_neg h, if_neg h]

end MangaPress
