/-
# Whether the next number is free

The number of the next folder comes from the directories of the day, while its name may be that of a
file, too. If it is, the page has no path, though other numbers are free. If a directory has the
largest number, there is no next one, though smaller numbers may be free. In all other cases the path
is given, and nothing had the name of its folder before.

Key definition: `Output.DayReady`.
Key theorems: `Output.nextPath_of_no_file`, `Output.nextPath_of_file`, `Output.next_number_free`.
-/
import MangaPress.Proofs.Output.Highest
import MangaPress.Proofs.Output.Tally

namespace MangaPress.Output

open FileTree

variable {files opened : FileTree} {root : Path} {date : Date} {n : Nat}

/-- The folder of the day is a directory, or nothing stands at its place and it can be created there;
the paths of numbered folders can be looked up. -/
structure DayReady (files : FileTree) (root : Path) (date : Date) : Prop where
  day : files.isDirectory (dayPath root date) = true ∨
    (∀ ns, files.node? (placeFrom files.workingDirectory (dayPath root date) ++ ns) = none) ∧
      (files.createDirectories (dayPath root date)).2 = .ok ()
  admitted : ∀ n ≤ maxNumber, Admitted (numberedPath root date n)

/-! ### The folder of the next number -/

theorem below_day (root : Path) (date : Date) (n : Nat) :
    Below (dayPath root date) (numberedPath root date n) [Text.ofNat n] :=
  below_join (.refl _) (isName_ofNat n)

theorem plain_number (hn : n ≤ maxNumber) : Plain [Text.ofNat n] := by
  have hlength : Text.utf8Length (Text.ofNat n) ≤ maxNameLength :=
    Nat.le_trans (utf8Length_ofNat_le hn) (by decide)
  exact List.forall_mem_singleton.mpr ⟨(isName_ofNat n).ne_up, hlength⟩

/-- The place of a numbered folder is in that of the day. -/
theorem placeFrom_numberedPath (wd : Location) (root : Path) (date : Date) (n : Nat) :
    placeFrom wd (numberedPath root date n) =
      placeFrom wd (dayPath root date) ++ [Text.ofNat n] :=
  (below_day root date n).placeFrom (List.forall_mem_singleton.mpr (isName_ofNat n).ne_up) wd

theorem names_dayPath_ne_nil (root : Path) (date : Date) : Path.names (dayPath root date) ≠ [] := by
  rw [(below_dayPath root date).names]
  exact List.append_ne_nil_of_right_ne_nil _ (dayNames_ne_nil date)

/-- Unless a file has its name, the folder of the next number can be created once that of the day
is. -/
theorem nextPath_of_no_file (hday : files.createDirectories (dayPath root date) = (opened, .ok ()))
    (hnumber : nextNumber files (dayPath root date) = .ok n)
    (hp : Admitted (numberedPath root date n))
    (hfile : ∀ content, opened.node?
      (placeFrom files.workingDirectory (numberedPath root date n)) ≠ some (.file content))
    (fileName : Text) :
    nextPath files root fileName none date =
      (opened.withDirectory (placeFrom files.workingDirectory (numberedPath root date n)),
        .ok (Path.join (numberedPath root date n) fileName)) := by
  have hleads := follow_of_createDirectories (names_dayPath_ne_nil root date) hday
  have hn : n ≤ maxNumber := nextNumber_le hnumber
  rw [placeFrom_numberedPath] at hfile ⊢
  have hfree : ∀ m ≤ [Text.ofNat n].length, ∀ content, opened.node?
      (placeFrom files.workingDirectory (dayPath root date) ++ [Text.ofNat n].take m) ≠
        some (.file content) := by
    intro m hm content
    rcases Nat.le_one_iff_eq_zero_or_eq_one.mp hm with rfl | rfl
    · rw [List.take_zero, List.append_nil, node?_of_follow hleads]
      simp
    · exact hfile content
  have hcreated := createDirectories_below hp (below_day root date n) (plain_number hn) hday hleads
    hfree
  rw [nextPath_of_number hnumber, hcreated]
  rfl

/-- If a file has the name of the next number, the page has no path, and nothing is created. -/
theorem nextPath_of_file (hday : files.isDirectory (dayPath root date) = true)
    (hnumber : nextNumber files (dayPath root date) = .ok n)
    (hp : Admitted (numberedPath root date n)) {content : Bytes}
    (hfile : files.node? (placeFrom files.workingDirectory (numberedPath root date n)) =
      some (.file content)) (fileName : Text) :
    nextPath files root fileName none date =
      (files, .error (.createFolder (numberedPath root date n) .exists)) := by
  obtain ⟨day, hfound⟩ := isDirectory_eq_true_iff.mp hday
  have hplace : day = placeFrom files.workingDirectory (dayPath root date) := location_of_find hfound
  obtain ⟨-, hleads, -⟩ := find_eq_ok_iff.mp hfound
  rw [placeFrom_numberedPath, ← hplace] at hfile
  have hfollow : files.follow (files.origin (numberedPath root date n))
      (Path.names (numberedPath root date n)) =
        .ok (.node (day ++ [Text.ofNat n]) (.file content)) := by
    rw [origin_numberedPath, names_numberedPath, follow_append (List.cons_ne_nil _ _) hleads,
      follow_singleton (node?_of_follow hleads) (isName_ofNat n).ne_up
        (plain_number (nextNumber_le hnumber) _ List.mem_cons_self).2, foundAt, hfile]
  rw [nextPath_of_number hnumber,
    createDirectories_of_file hp (names_numberedPath_ne_nil root date n) hfollow]

/-! ### The day -/

/-- The directory of a day has a next number unless the numbers are used up. -/
theorem exists_nextNumber (h : files.isDirectory (dayPath root date) = true)
    (hleft : ¬ UsedUp files root date) : ∃ n, nextNumber files (dayPath root date) = .ok n := by
  obtain ⟨day, hday⟩ := isDirectory_eq_true_iff.mp h
  have hlist : files.directoryNames (dayPath root date) = .ok (files.directoryNamesAt day) := by
    rw [directoryNames, hday]
  cases hafter : numberAfter? (files.directoryNamesAt day) with
  | none => exact absurd ⟨_, hlist, numberAfter?_eq_none_iff.mp hafter⟩ hleft
  | some n => exact ⟨n, by simp only [nextNumber, hlist, hafter]⟩

/-- The number of a day whose folder is missing is 1. -/
theorem nextNumber_of_missing (hp : Admitted (dayPath root date))
    (hnone : files.node? (placeFrom files.workingDirectory (dayPath root date)) = none)
    (hday : files.createDirectories (dayPath root date) = (opened, .ok ())) :
    nextNumber files (dayPath root date) = .ok 1 := by
  obtain ⟨m, hm, htake⟩ := Path.exists_length_names (names_dayPath_ne_nil root date)
  rw [createDirectories, hm] at hday
  unfold nextNumber directoryNames
  rcases follow_of_createDirectoriesTo_succ hp (by omega) hday with ⟨l, hl⟩ | ⟨l, hl⟩ | hmissing
  · rw [htake] at hl
    have hplace : l = placeFrom files.workingDirectory (dayPath root date) := location_of_follow hl
    have hdir := node?_of_follow hl
    rw [hplace, hnone] at hdir
    cases hdir
  · rw [htake] at hl
    rw [find_of_follow_free hp hl]
  · rw [htake] at hmissing
    rw [find_of_follow_error hp hmissing]

/-- No directory has the name of the next number. -/
theorem node?_ne_directory (hday : files.isDirectory (dayPath root date) = true)
    (hnumber : nextNumber files (dayPath root date) = .ok n) :
    files.node? (placeFrom files.workingDirectory (numberedPath root date n)) ≠
      some .directory := by
  intro hdir
  obtain ⟨day, hfound⟩ := isDirectory_eq_true_iff.mp hday
  have hplace : day = placeFrom files.workingDirectory (dayPath root date) := location_of_find hfound
  rw [placeFrom_numberedPath, ← hplace] at hdir
  have hfolder : HasFolder files root date n := ⟨day, (find_eq_ok_iff.mp hfound).2.1, hdir⟩
  exact Nat.lt_irrefl n (lt_of_nextNumber hfolder (nextNumber_le hnumber) hnumber)

theorem createDirectories_of_isDirectory (hp : Admitted (numberedPath root date n))
    (h : files.isDirectory (dayPath root date) = true) :
    files.createDirectories (dayPath root date) = (files, .ok ()) := by
  obtain ⟨day, hday⟩ := isDirectory_eq_true_iff.mp h
  exact createDirectories_of_leads hp (below_day root date n) (find_eq_ok_iff.mp hday).2.1

/-- **When the next number is free.** In a tree where the folder of the day is a directory or can be
made one there is a next number, unless some directory of the day has the largest one; then nothing is
created, and whoever asks for the path breaks off. No directory has the name of the next number. If
nothing else has it, the path of the page is given, and its folder is a new directory. If a file has
it, the page has no path and the tree stays as it is. -/
theorem next_number_free (h : DayReady files root date) (fileName : Text) :
    (UsedUp files root date →
      nextPath files root fileName none date = (files, .error .overflow)) ∧
    (¬ UsedUp files root date → ∃ n, nextNumber files (dayPath root date) = .ok n ∧
      let folder := numberedPath root date n
      let place := placeFrom files.workingDirectory folder
      let next := nextPath files root fileName none date
      (files.node? place = none ∧ ∃ files', next = (files', .ok (Path.join folder fileName)) ∧
        files'.node? place = some .directory) ∨
      (∃ content, files.node? place = some (.file content)) ∧
        next = (files, .error (.createFolder folder .exists))) := by
  constructor
  · intro hused
    have hnumber := nextNumber_eq_overflow_iff.mpr hused
    simp only [nextPath, sessionPath, hnumber, Except.map]
  intro hleft
  rcases h.day with hday | ⟨hnone, hcreated⟩
  · obtain ⟨n, hnumber⟩ := exists_nextNumber hday hleft
    have hp := h.admitted _ (nextNumber_le hnumber)
    refine ⟨n, hnumber, ?_⟩
    cases hnode : files.node? (placeFrom files.workingDirectory (numberedPath root date n)) with
    | none =>
      have hthere := createDirectories_of_isDirectory hp hday
      have hpath := nextPath_of_no_file hthere hnumber hp (by simp [hnode]) fileName
      exact .inl ⟨hnode, _, hpath, node?_withDirectory_self _ _⟩
    | some node =>
      cases node with
      | file content =>
        exact .inr ⟨⟨content, hnode⟩, nextPath_of_file hday hnumber hp hnode fileName⟩
      | directory => exact absurd hnode (node?_ne_directory hday hnumber)
  · -- In a folder that is missing nothing has the name of the first number.
    have hp := h.admitted 1 (by decide)
    have hopened : files.createDirectories (dayPath root date) =
        ((files.createDirectories (dayPath root date)).1, .ok ()) := Prod.ext rfl hcreated
    have hmissing := hnone []
    rw [List.append_nil] at hmissing
    have hnumber := nextNumber_of_missing (admitted_dayPath hp) hmissing hopened
    have hfree := hnone [Text.ofNat 1]
    rw [← placeFrom_numberedPath] at hfree
    have hway := createDirectories_extends files (dayPath root date)
    have hpath := nextPath_of_no_file hopened hnumber hp (hway.not_file (by simp [hfree])) fileName
    exact ⟨1, hnumber, .inl ⟨hfree, _, hpath, node?_withDirectory_self _ _⟩⟩

/-! ### Single days -/

/-- The tree with the folder of a day that holds these. -/
def dayHolding (held : List (Text × Node)) : FileTree where
  entries := held.map (fun (name, node) => (["out".toList, "2025-11".toList, "02".toList, name], node)) ++
    [(["out".toList, "2025-11".toList, "02".toList], .directory),
      (["out".toList, "2025-11".toList], .directory), (["out".toList], .directory)]

theorem dayReady_dayHolding {held : List (Text × Node)}
    (h : (dayHolding held).isDirectory (dayPath "out" folderDay) = true) :
    DayReady (dayHolding held) "out" folderDay where
  day := .inl h
  admitted n hn := admitted_numberedPath (by decide) (by decide) (by decide) hn

/-- A file whose number is no next one makes no difference: after the folders 1 and 4 comes 5. -/
theorem next_number_beside_file :
    let files := dayHolding [("9", .file []), ("notes", .directory), ("4", .directory),
      ("1", .directory)]
    DayReady files "out" folderDay ∧
      (nextPath files "out" "page.png" none folderDay).2 = .ok "out/2025-11/02/5/page.png" := by
  intro files
  have hready : DayReady files "out" folderDay := dayReady_dayHolding (by decide +kernel)
  have hfive : nextNumber files (dayPath "out" folderDay) = .ok 5 :=
    eq_ok_of_toOption (by decide +kernel)
  have hleft : ¬ UsedUp files "out" folderDay := by
    rw [← nextNumber_eq_overflow_iff, hfive]
    exact nofun
  obtain ⟨n, hnumber, hcases⟩ := (next_number_free hready "page.png").2 hleft
  obtain rfl : n = 5 := Except.ok.inj (hnumber.symm.trans hfive)
  have hfree : files.node? (placeFrom files.workingDirectory (numberedPath "out" folderDay 5)) =
      none := by decide +kernel
  have hpath : Path.join (numberedPath "out" folderDay 5) "page.png" =
      "out/2025-11/02/5/page.png".toList := by decide +kernel
  rcases hcases with ⟨-, files', hnext, -⟩ | ⟨⟨content, hfile⟩, -⟩
  · rw [hpath] at hnext
    rw [hnext]
    exact ⟨hready, rfl⟩
  · cases hfree.symm.trans hfile

/-- A file with the name of the next number leaves the page without a path, and so does a directory
with the largest number, though there are free numbers. -/
theorem next_number_not_free :
    let taken := dayHolding [("1", .file [])]
    let full := dayHolding [("0", .directory), ("18446744073709551615", .directory)]
    DayReady taken "out" folderDay ∧
      (nextPath taken "out" "page.png" none folderDay).2 =
        .error (.createFolder "out/2025-11/02/1" .exists) ∧
      DayReady full "out" folderDay ∧
      (nextPath full "out" "page.png" none folderDay).2 = .error .overflow := by
  intro taken full
  refine ⟨dayReady_dayHolding (by decide +kernel), ?_, dayReady_dayHolding (by decide +kernel), ?_⟩
  · decide +kernel
  · decide +kernel

end MangaPress.Output
