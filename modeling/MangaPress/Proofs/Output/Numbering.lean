/-
# The numbers of page folders

Without a session the folder of a page has the number after the highest one among the directories of
the day. So a folder that is there has a smaller number than the one that is chosen next. Where a
directory has the largest number, the numbers of the day are used up (`UsedUp`): no number comes next,
and whoever asks for one breaks off and leaves the files as they are.

Key definitions: `Output.UsedUp`, `Output.numberedPath`, `Output.HasFolder`.
Key theorems: `Output.numberAfter?_eq_none_iff`, `Output.nextNumber_eq_overflow_iff`,
`Output.save_of_usedUp`, `Output.usedUp_of_save`, `Output.hasFolder_of_createDirectories`,
`Output.nextPath_of_number`, `Output.lt_of_nextNumber`.
-/
import MangaPress.Proofs.Output.Folder

namespace MangaPress.Output

open FileTree

/-! ### Numbers -/

theorem le_foldl_max {n start : Nat} {ns : List Nat} (h : n ≤ start ∨ n ∈ ns) :
    n ≤ ns.foldl max start := by
  induction ns generalizing start with
  | nil => simpa using h
  | cons m ns ih =>
    rw [List.foldl_cons]
    apply ih
    rcases h with h | h
    · exact .inl (Nat.le_trans h (Nat.le_max_left start m))
    · rcases List.mem_cons.mp h with rfl | h
      · exact .inl (Nat.le_max_right start n)
      · exact .inr h

theorem foldl_max_le {bound start : Nat} {ns : List Nat} (hstart : start ≤ bound)
    (h : ∀ n ∈ ns, n ≤ bound) : ns.foldl max start ≤ bound := by
  induction ns generalizing start with
  | nil => exact hstart
  | cons m ns ih =>
    rw [List.foldl_cons]
    have hm : m ≤ bound := h m List.mem_cons_self
    exact ih (Nat.max_le.mpr ⟨hstart, hm⟩) fun n hn => h n (List.mem_cons_of_mem m hn)

theorem le_of_folderNumber? {name : Text} {n : Nat} (h : folderNumber? name = some n) :
    n ≤ maxNumber := by
  unfold folderNumber? at h
  split at h
  · obtain ⟨-, hle⟩ := Option.filter_eq_some_iff.mp h
    simpa using hle
  · cases h

/-- The name of a numbered folder says its number. -/
theorem folderNumber?_ofNat {n : Nat} (h : n ≤ maxNumber) :
    folderNumber? (Text.ofNat n) = some n := by
  have hdigits : (!(Text.ofNat n).isEmpty && (Text.ofNat n).all Text.isDigit) = true := by
    have hall : (Text.ofNat n).all Text.isDigit = true :=
      List.all_eq_true.mpr fun c hc => Text.isDigit_of_mem_ofNat hc
    simp [Text.ofNat_ne_nil, hall]
  rw [folderNumber?, if_pos hdigits, Text.toNat?_ofNat]
  simp [h]

theorem foldl_max_mem (ns : List Nat) (start : Nat) :
    ns.foldl max start = start ∨ ns.foldl max start ∈ ns := by
  induction ns generalizing start with
  | nil => simp
  | cons n ns ih =>
    rw [List.foldl_cons]
    rcases ih (max start n) with h | h
    · rw [h]
      rcases Nat.le_total start n with hle | hle
      · simp [Nat.max_eq_right hle]
      · simp [Nat.max_eq_left hle]
    · exact .inr (List.mem_cons_of_mem n h)

theorem highestNumber_le (names : List Text) : highestNumber names ≤ maxNumber := by
  apply foldl_max_le (Nat.zero_le maxNumber)
  intro n hn
  obtain ⟨name, -, hname⟩ := List.mem_filterMap.mp hn
  exact le_of_folderNumber? hname

theorem le_highestNumber {names : List Text} {name : Text} {n : Nat} (hmem : name ∈ names)
    (hn : folderNumber? name = some n) : n ≤ highestNumber names :=
  le_foldl_max (.inr (List.mem_filterMap.mpr ⟨name, hmem, hn⟩))

theorem numberAfter?_eq_some_iff {names : List Text} {n : Nat} : numberAfter? names = some n ↔
    highestNumber names < maxNumber ∧ n = highestNumber names + 1 := by
  unfold numberAfter?
  split
  · rename_i hlt
    rw [Option.some.injEq, eq_comm, and_iff_right hlt]
  · rename_i hle
    exact iff_of_false nofun fun h => hle h.1

/-- There is no next number only after the largest one. -/
theorem numberAfter?_eq_none_iff {names : List Text} :
    numberAfter? names = none ↔ ∃ name ∈ names, folderNumber? name = some maxNumber := by
  have hle := highestNumber_le names
  have hnone : numberAfter? names = none ↔ highestNumber names = maxNumber := by
    unfold numberAfter?
    split
    · exact iff_of_false nofun (by omega)
    · exact iff_of_true rfl (by omega)
  rw [hnone, ← List.mem_filterMap]
  constructor
  · intro hmax
    rcases foldl_max_mem (names.filterMap folderNumber?) 0 with h0 | hmem
    · exact absurd (h0.symm.trans hmax) (by decide)
    · rwa [← hmax]
  · intro hmem
    have hge : maxNumber ≤ highestNumber names := le_foldl_max (.inr hmem)
    omega

/-- The next number is larger than those of the folders that are there. -/
theorem lt_numberAfter? {names : List Text} {name : Text} {m n : Nat} (hmem : name ∈ names)
    (hn : folderNumber? name = some n) (hm : numberAfter? names = some m) : n < m := by
  have hle := le_highestNumber hmem hn
  obtain ⟨-, rfl⟩ := numberAfter?_eq_some_iff.mp hm
  omega

/-- A directory of the day has the largest number. -/
def UsedUp (files : FileTree) (root : Path) (date : Date) : Prop :=
  ∃ names, files.directoryNames (dayPath root date) = .ok names ∧
    ∃ name ∈ names, folderNumber? name = some maxNumber

theorem nextNumber_eq_overflow_iff {files : FileTree} {root : Path} {date : Date} :
    nextNumber files (dayPath root date) = .error .overflow ↔ UsedUp files root date := by
  unfold nextNumber UsedUp
  cases files.directoryNames (dayPath root date) with
  | error e =>
    refine iff_of_false ?_ fun ⟨_, h, _⟩ => nomatch h
    cases e <;> exact nofun
  | ok names =>
    simp only [Except.ok.injEq, exists_eq_left', ← numberAfter?_eq_none_iff]
    cases numberAfter? names <;> simp

/-- Where the numbers are used up, saving a page without a session breaks off and leaves the files. -/
theorem save_of_usedUp {files : FileTree} {root : Path} {date : Date} (h : UsedUp files root date)
    (fileName : Text) (image : Image) (room : Room) :
    save files root fileName none date image room = (files, .error .overflow) := by
  have hnumber := nextNumber_eq_overflow_iff.mpr h
  simp only [save, nextPath, sessionPath, hnumber, Except.map]

/-- Saving a page breaks off for no other reason. -/
theorem usedUp_of_save {files : FileTree} {root : Path} {fileName : Text} {session : Option Text}
    {date : Date} {image : Image} {room : Room}
    (h : (save files root fileName session date image room).2 = .error .overflow) :
    session = none ∧ UsedUp files root date := by
  have himage : ∀ t path, (saveImage t image path room).2.map (fun _ => path) ≠
      .error .overflow := by
    intro t path
    unfold saveImage
    cases Base64.decode? image.data with
    | none => simp [Except.map]
    | some bytes =>
      dsimp only
      cases (t.write path bytes room).2 <;> simp [Except.map, Except.mapError]
  have hfolder : sessionPath files root session date = .error .overflow := by
    unfold save nextPath at h
    cases hs : sessionPath files root session date with
    | error e =>
      rw [hs] at h
      exact h
    | ok folder =>
      rw [hs] at h
      dsimp only at h
      rcases hcreated : files.createDirectories folder with ⟨opened, e | u⟩
      · rw [hcreated] at h
        cases h
      · rw [hcreated] at h
        exact absurd h (himage opened _)
  unfold sessionPath at hfolder
  cases session with
  | some name => cases hfolder
  | none =>
    refine ⟨rfl, nextNumber_eq_overflow_iff.mp ?_⟩
    dsimp only at hfolder
    cases hn : nextNumber files (dayPath root date) with
    | error e =>
      rw [hn] at hfolder
      cases hfolder
      rfl
    | ok n =>
      rw [hn] at hfolder
      cases hfolder

/-! ### Folders -/

/-- The folder of a day with a number. -/
def numberedPath (root : Path) (date : Date) (n : Nat) : Path :=
  Path.join (dayPath root date) (Text.ofNat n)

/-- The folder of the day is there, and in it the folder with the number. -/
def HasFolder (files : FileTree) (root : Path) (date : Date) (n : Nat) : Prop :=
  ∃ day, files.follow (files.origin (dayPath root date)) (Path.names (dayPath root date)) =
      .ok (.node day .directory) ∧
    files.node? (day ++ [Text.ofNat n]) = some .directory

variable {files files' : FileTree} {root : Path} {date : Date} {n : Nat}

theorem names_numberedPath (root : Path) (date : Date) (n : Nat) :
    Path.names (numberedPath root date n) = Path.names (dayPath root date) ++ [Text.ofNat n] :=
  Path.names_join_of_isName _ (isName_ofNat n)

theorem names_numberedPath_ne_nil (root : Path) (date : Date) (n : Nat) :
    Path.names (numberedPath root date n) ≠ [] := by
  rw [names_numberedPath]
  exact List.append_ne_nil_of_right_ne_nil _ (List.cons_ne_nil _ _)

theorem origin_numberedPath (files : FileTree) (root : Path) (date : Date) (n : Nat) :
    files.origin (numberedPath root date n) = files.origin (dayPath root date) := by
  rw [origin, origin, numberedPath, Path.isAbsolute_join _ (isName_ofNat n).noSlash]

theorem dayPath_ne_nil (root : Path) (date : Date) : dayPath root date ≠ [] := by
  intro h
  have hnames := Path.names_join_of_isName (Path.join root date.monthFolder) date.isName_dayFolder
  rw [← dayPath, h] at hnames
  exact List.append_ne_nil_of_right_ne_nil _ (List.cons_ne_nil _ _) hnames.symm

/-- A folder that was created is there. -/
theorem hasFolder_of_createDirectories
    (h : files.createDirectories (numberedPath root date n) = (files', .ok ())) :
    HasFolder files' root date n := by
  have hfollow := follow_of_createDirectories (names_numberedPath_ne_nil root date n) h
  rw [names_numberedPath, origin_numberedPath] at hfollow
  obtain ⟨day, hday, hlast⟩ := follow_of_append (List.cons_ne_nil _ _) hfollow
  have hplace : placeFrom files.workingDirectory (numberedPath root date n) =
      day ++ [Text.ofNat n] := location_of_follow_singleton (isName_ofNat n).ne_up hlast
  exact ⟨day, hday, hplace ▸ node?_of_follow hlast⟩

/-- A folder stays. -/
theorem HasFolder.of_changes {touched : Location → Prop} (h : HasFolder files root date n)
    (hc : Changes touched files files') : HasFolder files' root date n := by
  obtain ⟨day, hday, hnode⟩ := h
  have hkeep := hc.keepsDirectories
  have hdir := node?_of_follow hday
  have horigin : files'.origin (dayPath root date) = files.origin (dayPath root date) := by
    rw [origin, origin, hc.workingDirectory]
  refine ⟨day, ?_, hkeep _ hnode⟩
  rw [horigin]
  exact follow_of_kept hkeep ((hkeep day hdir).trans hdir.symm) hday

theorem nextNumber_le {day : Path} (h : nextNumber files day = .ok n) : n ≤ maxNumber := by
  unfold nextNumber at h
  split at h
  · split at h
    · rename_i hafter
      cases h
      obtain ⟨hlt, rfl⟩ := numberAfter?_eq_some_iff.mp hafter
      exact hlt
    · cases h
  · cases h
    decide
  · cases h

/-- The folder of the next page is that of the next number, as far as it can be created. -/
theorem nextPath_of_number (h : nextNumber files (dayPath root date) = .ok n) (fileName : Text) :
    nextPath files root fileName none date =
      match files.createDirectories (numberedPath root date n) with
      | (files, .error e) => (files, .error (.createFolder (numberedPath root date n) e))
      | (files, .ok _) => (files, .ok (Path.join (numberedPath root date n) fileName)) := by
  have hfolder : sessionPath files root none date = .ok (numberedPath root date n) := by
    unfold sessionPath
    dsimp only
    rw [h]
    rfl
  rcases hcreated : files.createDirectories (numberedPath root date n) with ⟨opened, e | u⟩
  · simp only [nextPath, hfolder, hcreated]
  · simp only [nextPath, hfolder, hcreated]

/-- **The next number is larger than that of a folder that is there.** -/
theorem lt_of_nextNumber {m : Nat} (hfolder : HasFolder files root date n) (hn : n ≤ maxNumber)
    (hm : nextNumber files (dayPath root date) = .ok m) : n < m := by
  obtain ⟨day, hday, hnode⟩ := hfolder
  unfold nextNumber at hm
  rcases directoryNames_of_follow (dayPath_ne_nil root date) hday with hlist | hlist | hlist
  · rw [hlist] at hm
    dsimp only at hm
    split at hm
    · rename_i hafter
      cases hm
      exact lt_numberAfter? (mem_directoryNamesAt hnode) (folderNumber?_ofNat hn) hafter
    · cases hm
  · simp [hlist] at hm
  · simp [hlist] at hm

end MangaPress.Output
