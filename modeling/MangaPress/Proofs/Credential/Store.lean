/-
# The credential file as a map

A file that can be read as entries stands for a map from names to values (`Credential.Reads`).
Whether the file can be opened to write entries is told by the tree and not by the entries
(`Credential.writeEntries_opens`); a file that is there can always be opened. If it is opened and there
is room on the disk, it reads as the entries afterwards; if it cannot be, there was no file and is none
(`Credential.writeEntries_cases`).

Key definitions: `Credential.Contents`, `Credential.Reads`, `Credential.Writable`.
Key theorems: `Credential.writeEntries_opens`, `Credential.writeEntries_cases`, `Credential.Writable.of_bytesAt`,
`Credential.Writable.of_vacant`, `Credential.reads_of_bytesAt`.
-/
import MangaPress.Proofs.Credential.Entries
import MangaPress.Proofs.Files.Directories

namespace MangaPress.Credential

/-- What a credential file says: the value under each name. -/
abbrev Contents := Text → Option Text

/-- The file at a path can be read, and says this. A file that is not there says nothing of any
name. -/
def Reads (files : FileTree) (path : Path) (m : Contents) : Prop :=
  ∃ entries, readEntries files path = .ok entries ∧ ∀ name, entries.lookup name = m name

/-- Entries can be written to the path. -/
def Writable (files : FileTree) (path : Path) : Prop :=
  (writeEntries files path []).2 = .ok ()

/-- The path leads to no file. -/
def Unreadable (files : FileTree) (path : Path) : Prop :=
  ∀ content, files.bytesAt path ≠ .ok content

variable {files : FileTree} {path : Path}

/-! ### Reading -/

theorem sorted_of_readEntries {entries : Entries} (h : readEntries files path = .ok entries) :
    entries.Sorted := by
  have hparse : ∀ content, parseEntries content = .ok entries → entries.Sorted := by
    intro content hc
    unfold parseEntries at hc
    split at hc
    · cases hc
      exact List.Pairwise.nil
    · dsimp only at hc
      split at hc
      · cases hc
        exact Entries.sorted_ofMembers _
      · cases hc
  unfold readEntries at h
  split at h
  · exact hparse _ h
  · cases h
    exact List.Pairwise.nil
  · cases h

theorem readEntries_of_bytesAt {content : Bytes} (h : files.bytesAt path = .ok content) :
    readEntries files path = parseEntries content := by
  rw [readEntries, h]

/-- A path that leads to no file is read as no entries or not at all. -/
theorem readEntries_of_unreadable (h : Unreadable files path) {entries : Entries}
    (hr : readEntries files path = .ok entries) :
    files.bytesAt path = .error .notFound ∧ entries = [] := by
  unfold readEntries at hr
  split at hr
  · rename_i content hc
    exact absurd hc (h content)
  · rename_i hc
    cases hr
    exact ⟨hc, rfl⟩
  · cases hr

theorem Reads.unique {m m' : Contents} (h : Reads files path m) (h' : Reads files path m') :
    m = m' := by
  obtain ⟨entries, hr, hm⟩ := h
  obtain ⟨entries', hr', hm'⟩ := h'
  rw [hr] at hr'
  cases hr'
  funext name
  rw [← hm, ← hm']

/-! ### Writing -/

/-- Whatever the entries are, the file is opened for them, or it neither was there nor can be made, and
only directories above it are. -/
theorem writeEntries_opens (files : FileTree) (path : Path) :
    (∃ opened l, files.createParents path = (opened, .ok ()) ∧ opened.OpensAt path l ∧
      ∀ entries room, writeEntries files path entries room =
        ((opened.fill l (Text.encode entries.write) room).1,
          (opened.fill l (Text.encode entries.write) room).2.mapError .files)) ∨
    ∃ opened e, (files.createParents path).1 = opened ∧
      (∀ entries room, writeEntries files path entries room = (opened, .error (.files e))) ∧
      Unreadable files path ∧ Unreadable opened path := by
  have hparents : ∀ content, files.bytesAt path = .ok content →
      files.createParents path = (files, .ok ()) := by
    intro content hc
    obtain ⟨l, hl⟩ := FileTree.bytesAt_eq_ok_iff.mp hc
    exact FileTree.createParents_of_find hl
  rcases hcreate : files.createParents path with ⟨opened, e | u⟩
  · refine .inr ⟨opened, e, rfl, fun _ _ => by rw [writeEntries, hcreate], fun content hc => ?_,
      fun content hc => ?_⟩
    · rw [hparents content hc] at hcreate
      cases hcreate
    · obtain ⟨l, hl⟩ := FileTree.bytesAt_eq_ok_iff.mp hc
      exact FileTree.find_of_createParents_error hcreate _ hl
  · rcases opened.write_cases path with ⟨l, hl⟩ | ⟨e, herror, hno⟩
    · refine .inl ⟨opened, l, rfl, hl, fun entries room => ?_⟩
      rw [writeEntries, hcreate]
      dsimp only
      rw [hl.write_eq]
    · refine .inr ⟨opened, e, rfl, fun _ _ => ?_, fun content hc => ?_, hno⟩
      · rw [writeEntries, hcreate]
        dsimp only
        rw [herror]
        rfl
      · have he := hcreate.symm.trans (hparents content hc)
        cases he
        exact hno content hc

/-- With room on the disk, written entries can be read; where they cannot be written there was no file
and is none. -/
theorem writeEntries_cases (files : FileTree) (path : Path) (entries : Entries) :
    (∃ files', writeEntries files path entries = (files', .ok ()) ∧
      files'.bytesAt path = .ok (Text.encode entries.write)) ∨
    ∃ files' e, writeEntries files path entries = (files', .error (.files e)) ∧
      Unreadable files path ∧ Unreadable files' path := by
  rcases writeEntries_opens files path with
    ⟨opened, l, -, hl, hwrite⟩ | ⟨opened, e, -, hwrite, hno⟩
  · exact .inl ⟨_, hwrite entries .ample, hl.bytesAt_put _⟩
  · exact .inr ⟨opened, e, hwrite entries .ample, hno⟩

theorem Writable.of_bytesAt {content : Bytes} (h : files.bytesAt path = .ok content) :
    Writable files path := by
  rcases writeEntries_cases files path [] with ⟨files', hw, -⟩ | ⟨files', e, -, hno, -⟩
  · rw [Writable, hw]
  · exact absurd h (hno content)

/-- A file that is not there yet can be made, and the directories above it with it. -/
theorem Writable.of_vacant (h : files.Vacant path) : Writable files path := by
  obtain ⟨opened, hcreate, l, hl⟩ := h.opensAt
  unfold Writable writeEntries
  rw [hcreate]
  dsimp only
  rw [hl.write_eq]
  rfl

/-- A file of entries in order says what the entries say. -/
theorem reads_of_bytesAt {entries : Entries} (hs : entries.Sorted)
    (h : files.bytesAt path = .ok (Text.encode entries.write)) :
    Reads files path fun name => entries.lookup name := by
  refine ⟨entries, ?_, fun _ => rfl⟩
  rw [readEntries_of_bytesAt h, parseEntries_encode_write hs]

end MangaPress.Credential
