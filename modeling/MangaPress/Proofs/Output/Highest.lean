/-
# The number after the highest one

A folder of a day counts for the next number if its name is made of decimal digits, however many and
with however many zeros in front. As long as the highest of these numbers is below the largest that a
folder can have, the next number is one more than it, and so larger than all of them. From there on it
is not: a name whose number is too large is passed over, and after the largest number there is none.

Key definition: `Output.IsHighest`.
Key theorems: `Output.folderNumber?_eq_filter`, `Output.isHighest_fitting`,
`Output.number_after_highest`.
-/
import MangaPress.Proofs.Agree
import MangaPress.Proofs.Output.Numbering

namespace MangaPress.Output

/-! ### The highest number -/

/-- The number is the highest one among those of the names that are made of digits, and 0 if there
are none. -/
structure IsHighest (names : List Text) (n : Nat) : Prop where
  bound : ∀ name ∈ names, Text.IsDecimal name → Text.decimalValue name ≤ n
  reached : n = 0 ∨ ∃ name ∈ names, Text.IsDecimal name ∧ Text.decimalValue name = n

theorem IsHighest.le {names : List Text} {m n : Nat} (h : IsHighest names m)
    (h' : IsHighest names n) : m ≤ n := by
  rcases h.reached with h0 | ⟨name, hname, hdecimal, hvalue⟩
  · omega
  · rw [← hvalue]
    exact h'.bound name hname hdecimal

theorem IsHighest.unique {names : List Text} {m n : Nat} (h : IsHighest names m)
    (h' : IsHighest names n) : m = n :=
  Nat.le_antisymm (h.le h') (h'.le h)

theorem isHighest_foldl (names : List Text) :
    IsHighest names ((names.filterMap Text.toNat?).foldl max 0) where
  bound := by
    intro name hname hdecimal
    have hread := Text.toNat?_eq_some_iff.mpr ⟨hdecimal, rfl⟩
    exact le_foldl_max (.inr (List.mem_filterMap.mpr ⟨name, hname, hread⟩))
  reached := by
    rcases foldl_max_mem (names.filterMap Text.toNat?) 0 with h | h
    · exact .inl h
    · obtain ⟨name, hname, hread⟩ := List.mem_filterMap.mp h
      exact .inr ⟨name, hname, Text.toNat?_eq_some_iff.mp hread⟩

/-! ### The numbers that fit -/

/-- What a name is read as: only the size of its number matters beside its digits. -/
theorem folderNumber?_eq_filter (name : Text) :
    folderNumber? name = (Text.toNat? name).filter (· ≤ maxNumber) := by
  unfold folderNumber?
  by_cases hdigits : (!name.isEmpty && name.all Text.isDigit) = true
  · rw [if_pos hdigits]
  · have hnone : Text.toNat? name = none := by
      rw [Option.eq_none_iff_forall_ne_some]
      intro n hn
      obtain ⟨hdecimal, -⟩ := Text.toNat?_eq_some_iff.mp hn
      apply hdigits
      simp [hdecimal.ne_nil, List.all_eq_true.mpr hdecimal.digits]
    rw [if_neg hdigits, hnone]
    rfl

/-- The names whose numbers, if they have any, are not too large. -/
def fitting (names : List Text) : List Text :=
  names.filter fun name => decide (Text.decimalValue name ≤ maxNumber)

theorem filterMap_fitting (names : List Text) :
    (fitting names).filterMap Text.toNat? = names.filterMap folderNumber? := by
  rw [fitting, List.filterMap_filter]
  apply List.filterMap_congr
  intro name _
  rw [folderNumber?_eq_filter]
  cases hread : Text.toNat? name with
  | none => simp
  | some n =>
    obtain ⟨-, hvalue⟩ := Text.toNat?_eq_some_iff.mp hread
    rw [hvalue]
    by_cases hle : n ≤ maxNumber
    · simp [Option.filter, hle]
    · simp [Option.filter, hle]

/-- The highest number that fits is the one that is counted from. -/
theorem isHighest_fitting (names : List Text) :
    IsHighest (fitting names) (highestNumber names) := by
  rw [highestNumber, ← filterMap_fitting]
  exact isHighest_foldl (fitting names)

theorem IsHighest.fitting {names : List Text} {n : Nat} (h : IsHighest names n)
    (hn : n ≤ maxNumber) : IsHighest (fitting names) n where
  bound := fun name hname => h.bound name (List.mem_of_mem_filter hname)
  reached := by
    rcases h.reached with h0 | ⟨name, hname, hdecimal, hvalue⟩
    · exact .inl h0
    · have hle : Text.decimalValue name ≤ maxNumber := by omega
      have hfits : name ∈ Output.fitting names := List.mem_filter.mpr ⟨hname, by simpa using hle⟩
      exact .inr ⟨name, hfits, hdecimal, hvalue⟩

/-- If the highest number fits, it is the one that is counted from, and otherwise that one is lower. -/
theorem highestNumber_cases {names : List Text} {highest : Nat} (h : IsHighest names highest) :
    highest ≤ maxNumber ∧ highestNumber names = highest ∨
      maxNumber < highest ∧ highestNumber names ≤ maxNumber := by
  rcases Nat.lt_or_ge maxNumber highest with hlt | hle
  · exact .inr ⟨hlt, highestNumber_le names⟩
  · exact .inl ⟨hle, (isHighest_fitting names).unique (h.fitting hle)⟩

/-! ### The path of the next page -/

theorem path_of_number {files files' : FileTree} {root path : Path} {fileName : Text} {date : Date}
    {n : Nat} (h : nextNumber files (dayPath root date) = .ok n)
    (hpath : nextPath files root fileName none date = (files', .ok path)) :
    path = Path.join (numberedPath root date n) fileName := by
  rw [nextPath_of_number h] at hpath
  split at hpath
  · simp at hpath
  · exact (Except.ok.inj (Prod.mk.inj hpath).2).symm

/-- The next number of a day by the names of the directories in its folder, if it has one. -/
theorem nextNumber_of_names {files : FileTree} {root : Path} {date : Date} {names : List Text}
    (h : files.directoryNames (dayPath root date) = .ok names ∨
      files.directoryNames (dayPath root date) = .error .notFound ∧ names = []) (n : Nat) :
    nextNumber files (dayPath root date) = .ok n ↔
      highestNumber names < maxNumber ∧ n = highestNumber names + 1 := by
  have hnumber : nextNumber files (dayPath root date) = .ok n ↔ numberAfter? names = some n := by
    unfold nextNumber
    rcases h with h | ⟨h, rfl⟩
    · rw [h]
      dsimp only
      cases numberAfter? names <;> simp
    · have hfirst : numberAfter? [] = some 1 := by decide
      rw [h, hfirst]
      simp
  exact hnumber.trans numberAfter?_eq_some_iff

/-- **The number after the highest one.** Without a session the folder of the next page has a number
that is chosen by the names of the directories of the day, if the day has a folder. It is one more
than the highest number among names made of digits (1 if there are none) iff this one is below the
largest number that a folder can have, and larger than the numbers of all these names under the same
condition. In any case it is one more than the highest number that is not too large. If that is the
largest one there is no next number, and whoever asks for the path breaks off. -/
theorem number_after_highest {files : FileTree} {root : Path} {date : Date} {names : List Text}
    (h : files.directoryNames (dayPath root date) = .ok names ∨
      files.directoryNames (dayPath root date) = .error .notFound ∧ names = []) :
    ∃ highest fit, IsHighest names highest ∧ IsHighest (fitting names) fit ∧ fit ≤ maxNumber ∧
      (nextNumber files (dayPath root date) = .ok (highest + 1) ↔ highest < maxNumber) ∧
      ((∃ n, nextNumber files (dayPath root date) = .ok n ∧
        ∀ name ∈ names, Text.IsDecimal name → Text.decimalValue name < n) ↔ highest < maxNumber) ∧
      (fit < maxNumber → nextNumber files (dayPath root date) = .ok (fit + 1) ∧
        ∀ fileName files' path, nextPath files root fileName none date = (files', .ok path) →
          path = Path.join (numberedPath root date (fit + 1)) fileName) ∧
      (fit = maxNumber → ∀ fileName,
        nextPath files root fileName none date = (files, .error .overflow)) := by
  have hnumber := nextNumber_of_names h
  have hhighest := isHighest_foldl names
  refine ⟨_, highestNumber names, hhighest, isHighest_fitting names, highestNumber_le names,
    ?_, ?_, ?_, ?_⟩
  · rw [hnumber]
    have hcases := highestNumber_cases hhighest
    omega
  · constructor
    · rintro ⟨n, hn, hall⟩
      -- The highest number is that of a name, so it is smaller than one that fits.
      obtain ⟨hlt, rfl⟩ := (hnumber n).mp hn
      have hpos : 0 < maxNumber := by decide
      rcases hhighest.reached with h0 | ⟨name, hname, hdecimal, hvalue⟩
      · omega
      · have hless := hall name hname hdecimal
        rcases highestNumber_cases hhighest with ⟨-, hsame⟩ | ⟨hlarge, -⟩ <;> omega
    · intro hlt
      have hsame : highestNumber names = (names.filterMap Text.toNat?).foldl max 0 := by
        rcases highestNumber_cases hhighest with ⟨-, hsame⟩ | ⟨hlarge, -⟩
        · exact hsame
        · omega
      refine ⟨_, (hnumber _).mpr ⟨hsame ▸ hlt, rfl⟩, fun name hname hdecimal => ?_⟩
      have hle := hhighest.bound name hname hdecimal
      omega
  · intro hlt
    have hnext := (hnumber _).mpr ⟨hlt, rfl⟩
    exact ⟨hnext, fun fileName files' path => path_of_number hnext⟩
  · intro hmax fileName
    have hused : nextNumber files (dayPath root date) = .error .overflow := by
      rcases h with h | ⟨-, rfl⟩
      · have hnone : numberAfter? names = none := by
          rw [numberAfter?, if_neg (by omega)]
        unfold nextNumber
        rw [h]
        dsimp only
        rw [hnone]
      · exact absurd hmax (by decide)
    simp only [nextPath, sessionPath, hused, Except.map]

/-! ### Single folders -/

/-- A day with a folder. -/
def folderDay : Date where
  year := 2025
  month := 11
  day := 2

/-- The tree with the folder of that day and in it one directory. -/
def dayWith (name : Text) : FileTree where
  entries := [(["out", "2025-11", "02", name], .directory),
    (["out", "2025-11", "02"].map String.toList, .directory),
    (["out", "2025-11"].map String.toList, .directory), (["out".toList], .directory)]

theorem isHighest_singleton {name : Text} {n : Nat} (hread : Text.toNat? name = some n) :
    IsHighest [name] n := by
  have h := isHighest_foldl [name]
  rw [List.filterMap_cons_some hread] at h
  simpa using h

/-- Zeros in front make no difference: after the folder 007 comes 8. -/
theorem number_after_zeros :
    (dayWith "007").directoryNames (dayPath "out" folderDay) = .ok ["007".toList] ∧
      nextNumber (dayWith "007") (dayPath "out" folderDay) = .ok 8 := by
  have hlist : (dayWith "007").directoryNames (dayPath "out" folderDay) = .ok ["007".toList] :=
    eq_ok_of_toOption (by decide +kernel)
  have hseven : IsHighest ["007".toList] 7 := isHighest_singleton (by decide +kernel)
  obtain ⟨highest, -, hhighest, -, -, hnext, -⟩ := number_after_highest (.inl hlist)
  obtain rfl : highest = 7 := hhighest.unique hseven
  exact ⟨hlist, hnext.mpr (by decide)⟩

/-- A folder whose number is larger by 1 than the largest is followed by 1, and none follows that with
the largest number. -/
theorem number_not_after_highest :
    (nextPath (dayWith "18446744073709551616") "out" "page.png" none folderDay).2 =
        .ok "out/2025-11/02/1/page.png" ∧
      IsHighest ["18446744073709551616".toList] 18446744073709551616 ∧
      (nextPath (dayWith "18446744073709551615") "out" "page.png" none folderDay).2 =
        .error .overflow ∧
      IsHighest ["18446744073709551615".toList] 18446744073709551615 :=
  ⟨eq_ok_of_toOption (by decide +kernel), isHighest_singleton (by decide +kernel),
    by decide +kernel, isHighest_singleton (by decide +kernel)⟩

end MangaPress.Output
