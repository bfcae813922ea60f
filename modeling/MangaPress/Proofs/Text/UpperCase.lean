/-
# What an upper case holds

A table of upper cases can be searched for a few characters: where none of them is a capital, they
occur in the upper case of a text only where they stood in the text.

No capital is itself a letter with another capital, so what an upper case holds stands for itself, and
putting a text in upper case twice is the same as once.

Key definitions: `Text.NoCapital`, `Text.CapitalRun.avoids`.
Key theorems: `Text.NoCapital.eq_of_mem_charUpperCase`, `Text.NoCapital.mem_of_mem_upperCase`,
`Text.charUpperCase_of_mem`, `Text.upperCase_eq_self_iff`.
-/
import MangaPress.Text.UpperCase
import Mathlib.Data.List.Basic

namespace MangaPress.Text

/-- None of the codes is that of a capital, nor zero, which stands for what is no character. -/
structure NoCapital (codes : List Nat) : Prop where
  zero : 0 ∉ codes
  runs : ∀ r ∈ capitalRuns, ∀ n ∈ codes, n < r.capital ∨ r.capital + (r.last - r.first) < n
  expansions : ∀ e ∈ capitalExpansions, ∀ n ∈ e.2, n ∉ codes

instance (codes : List Nat) : Decidable (NoCapital codes) :=
  decidable_of_iff
    (0 ∉ codes ∧
      (∀ r ∈ capitalRuns, ∀ n ∈ codes, n < r.capital ∨ r.capital + (r.last - r.first) < n) ∧
      ∀ e ∈ capitalExpansions, ∀ n ∈ e.2, n ∉ codes)
    ⟨fun ⟨h1, h2, h3⟩ => ⟨h1, h2, h3⟩, fun ⟨h1, h2, h3⟩ => ⟨h1, h2, h3⟩⟩

variable {codes : List Nat}

theorem NoCapital.eq_of_mem_upperCodes (h : NoCapital codes) {n m : Nat} (hm : m ∈ upperCodes n)
    (hc : m ∈ codes) : m = n := by
  unfold upperCodes at hm
  cases hr : capitalRuns.findSome? (·.capital? n) with
  | some k =>
    rw [hr] at hm
    rw [List.mem_singleton.mp hm] at hc
    obtain ⟨r, hmem, hk⟩ := List.exists_of_findSome?_eq_some hr
    unfold CapitalRun.capital? at hk
    split at hk
    · rename_i hin
      cases hk
      have := h.runs r hmem _ hc
      omega
    · cases hk
  | none =>
    rw [hr] at hm
    dsimp only at hm
    cases he : capitalExpansions.lookup n with
    | none =>
      rw [he] at hm
      exact List.mem_singleton.mp hm
    | some ms =>
      rw [he] at hm
      obtain ⟨before, after, hsplit, -⟩ := List.lookup_eq_some_iff.mp he
      exact absurd hc (h.expansions (n, ms) (by rw [hsplit]; simp) m hm)

/-- A character in the upper case of a character has one of its upper codes, or is no character. -/
theorem toNat_of_mem_charUpperCase {c d : Char} (hd : d ∈ charUpperCase c) :
    d.toNat ∈ upperCodes c.toNat ∨ d = '\x00' := by
  obtain ⟨m, hm, rfl⟩ := List.mem_map.mp hd
  by_cases hv : m.isValidChar
  · have hcode : (Char.ofNat m).toNat = m := by
      rw [Char.ofNat, dif_pos hv]
      rfl
    exact .inl (by rwa [hcode])
  · exact .inr (dif_neg hv)

/-- A character with no capital's code that is found in the upper case of a character is that
character. -/
theorem NoCapital.eq_of_mem_charUpperCase (h : NoCapital codes) {c d : Char}
    (hd : d ∈ charUpperCase c) (hc : d.toNat ∈ codes) : d = c := by
  rcases toNat_of_mem_charUpperCase hd with hm | rfl
  · exact Char.toNat_inj.mp (h.eq_of_mem_upperCodes hm hc)
  · exact absurd hc h.zero

theorem NoCapital.mem_of_mem_upperCase (h : NoCapital codes) {t : Text} {d : Char}
    (hd : d ∈ upperCase t) (hc : d.toNat ∈ codes) : d ∈ t := by
  obtain ⟨c, hmem, hd⟩ := List.mem_flatMap.mp hd
  rwa [h.eq_of_mem_charUpperCase hd hc]

/-! ### Capitals stand for themselves -/

namespace CapitalRun

/-- No capital of the run is a letter of the other one: they lie apart, or take turns. -/
def avoids (r other : CapitalRun) : Bool :=
  (r.capital + (r.last - r.first)).blt other.first || other.last.blt r.capital ||
    (r.step == 2 || r.first == r.last) && other.step == 2 && (r.capital + other.first) % 2 == 1

/-- The code lies outside the capitals of the run. -/
def misses (r : CapitalRun) (code : Nat) : Bool :=
  code.blt r.capital || (r.capital + (r.last - r.first)).blt code

variable {r other : CapitalRun} {n m : Nat}

theorem capital?_eq_some_iff : r.capital? n = some m ↔
    (r.first ≤ n ∧ n ≤ r.last ∧ (n - r.first) % r.step = 0) ∧ r.capital + (n - r.first) = m := by
  rw [capital?, Option.ite_none_right_eq_some, Option.some_inj]

theorem capital?_eq_none (h : r.avoids other = true) (hm : r.capital? n = some m) :
    other.capital? m = none := by
  obtain ⟨hin, rfl⟩ := capital?_eq_some_iff.mp hm
  simp only [avoids, Bool.or_eq_true, Bool.and_eq_true, Nat.blt_eq, beq_iff_eq] at h
  refine if_neg ?_
  rcases h with (h | h) | ⟨⟨hstep | hone, hother⟩, hodd⟩
  · omega
  · omega
  · rw [hstep] at hin
    rw [hother]
    omega
  · rw [hother]
    omega

theorem ne_of_misses (h : r.misses n = true) {k : Nat} (hm : r.capital? k = some m) : m ≠ n := by
  obtain ⟨hin, rfl⟩ := capital?_eq_some_iff.mp hm
  simp only [misses, Bool.or_eq_true, Nat.blt_eq] at h
  omega

end CapitalRun

theorem capitalRuns_avoid :
    (capitalRuns.all fun r => capitalRuns.all fun other => r.avoids other) = true := by
  decide +kernel

theorem capitalRuns_miss :
    (capitalRuns.all fun r => capitalExpansions.all fun e => r.misses e.1) = true := by
  decide +kernel

theorem capitalExpansions_fixed :
    (capitalExpansions.all fun e => e.2.all fun m => upperCodes m == [m]) = true := by
  decide +kernel

theorem upperCodes_of_capital? {r : CapitalRun} (hr : r ∈ capitalRuns) {n m : Nat}
    (hm : r.capital? n = some m) : upperCodes m = [m] := by
  have hruns : capitalRuns.findSome? (·.capital? m) = none := by
    rw [List.findSome?_eq_none_iff]
    intro other hother
    exact CapitalRun.capital?_eq_none
      (List.all_eq_true.mp (List.all_eq_true.mp capitalRuns_avoid r hr) other hother) hm
  have hexpansions : capitalExpansions.lookup m = none := by
    rw [List.lookup_eq_none_iff]
    intro e he
    rw [bne_iff_ne]
    exact CapitalRun.ne_of_misses
      (List.all_eq_true.mp (List.all_eq_true.mp capitalRuns_miss r hr) e he) hm
  rw [upperCodes, hruns, hexpansions]
  rfl

theorem upperCodes_of_mem {n m : Nat} (hm : m ∈ upperCodes n) : upperCodes m = [m] := by
  unfold upperCodes at hm
  cases hr : capitalRuns.findSome? (·.capital? n) with
  | some k =>
    rw [hr] at hm
    obtain rfl := List.mem_singleton.mp hm
    obtain ⟨r, hmem, hk⟩ := List.exists_of_findSome?_eq_some hr
    exact upperCodes_of_capital? hmem hk
  | none =>
    rw [hr] at hm
    dsimp only at hm
    cases he : capitalExpansions.lookup n with
    | none =>
      rw [he] at hm
      obtain rfl := List.mem_singleton.mp hm
      rw [upperCodes, hr, he]
      rfl
    | some ms =>
      rw [he] at hm
      obtain ⟨before, after, hsplit, -⟩ := List.lookup_eq_some_iff.mp he
      have hfixed := List.all_eq_true.mp capitalExpansions_fixed (n, ms) (by rw [hsplit]; simp)
      exact beq_iff_eq.mp (List.all_eq_true.mp hfixed m hm)

/-- What stands in the upper case of a character is its own upper case. -/
theorem charUpperCase_of_mem {c d : Char} (hd : d ∈ charUpperCase c) : charUpperCase d = [d] := by
  rcases toNat_of_mem_charUpperCase hd with hm | rfl
  · rw [charUpperCase, upperCodes_of_mem hm, List.map_singleton, Char.ofNat_toNat]
  · decide +kernel

theorem charUpperCase_of_mem_upperCase {t : Text} {d : Char} (hd : d ∈ upperCase t) :
    charUpperCase d = [d] := by
  obtain ⟨c, -, hd⟩ := List.mem_flatMap.mp hd
  exact charUpperCase_of_mem hd

/-- The texts in upper case are those of characters that stand for themselves. -/
theorem upperCase_eq_self_iff {t : Text} :
    upperCase t = t ↔ ∀ c ∈ t, charUpperCase c = [c] := by
  constructor
  · intro h c hc
    rw [← h] at hc
    exact charUpperCase_of_mem_upperCase hc
  · intro h
    calc upperCase t = t.flatMap fun c => [c] := List.flatMap_congr h
      _ = t := List.flatMap_singleton' t

end MangaPress.Text
