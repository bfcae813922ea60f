/-
# The stored key while other files change

The credential file keeps a key, or none, as long as it can be read or is missing
(`Credential.Keeps`). With room on the disk, storing a key makes it the one that is kept, or fails and
changes nothing about it, which can only be where the file is missing; removing the key always
succeeds. What else happens in the tree does not matter as long as it stays off the file and the way to
it; neither operation touches another file, whatever the room is (`Credential.Confined`).

Key definitions: `Credential.Keeps`, `Credential.Confined`.
Key theorems: `Credential.Keeps.save`, `Credential.Keeps.clear`, `Credential.Keeps.of_extends`,
`Credential.Keeps.put`.
-/
import MangaPress.Proofs.Credential.Refinement
import MangaPress.Proofs.Files.Frame

namespace MangaPress.Credential

open FileTree

/-- The credential file can be read or is missing, and the stored key is this one, if any. -/
structure Keeps (files : FileTree) (path : Path) (stored : Option Text) : Prop where
  load : load files path = .ok stored
  place : (∃ content, files.bytesAt path = .ok content) ∨ Absent files path

variable {files files' : FileTree} {path : Path} {stored : Option Text}

/-! ### Reading and writing -/

theorem load_congr (h : files'.bytesAt path = files.bytesAt path) :
    load files' path = load files path := by
  rw [load, load, readEntries, readEntries, h]

theorem load_of_reads {m : Contents} (h : Reads files path m) :
    load files path = .ok ((m entryName).bind trimmed?) := by
  obtain ⟨entries, hr, hm⟩ := h
  rw [load_eq_ok_iff]
  exact ⟨entries, hr, by rw [hm]⟩

/-- An operation on the file at a path touches nothing but that file. Where there is room on the disk
it does so only if it succeeds, and if it fails and the path lies in a directory, it changes nothing at
all. -/
structure Confined (files : FileTree) (path : Path) (room : Room)
    (done : FileTree × Except CredentialError Unit) : Prop where
  changes : Changes (· = placeFrom files.workingDirectory path) files done.1
  succeeded : room = .ample →
    Changes (fun l => done.2 = .ok () ∧ l = placeFrom files.workingDirectory path) files done.1
  failed : room = .ample → InDirectory files path → ∀ e, done.2 = .error e → done.1 = files

theorem confined_unchanged (files : FileTree) (path : Path) (room : Room)
    (result : Except CredentialError Unit) : Confined files path room (files, result) :=
  ⟨.refl _ files, fun _ => .refl _ files, fun _ _ _ _ => rfl⟩

theorem confined_writeEntries (files : FileTree) (path : Path) (entries : Entries) (room : Room) :
    Confined files path room (writeEntries files path entries room) := by
  have hway := createParents_extends files path
  rcases writeEntries_opens files path with
    ⟨opened, l, hcreate, hl, hwrite⟩ | ⟨opened, e, hopened, hwrite, -⟩
  · rw [hcreate] at hway
    have hput : Changes (· = placeFrom files.workingDirectory path) files
        (writeEntries files path entries room).1 := by
      rw [hwrite, ← hway.workingDirectory, ← hl.eq_placeFrom]
      exact (hway.changes _).trans (changes_put hl.ne_nil hl.node?_ne _)
    refine ⟨hput, ?_, ?_⟩
    · rintro rfl
      refine hput.mono fun l' hl' => ⟨?_, hl'⟩
      rw [hwrite]
      rfl
    · rintro rfl _ e he
      rw [hwrite] at he
      cases he
  · rw [hopened] at hway
    rw [hwrite]
    refine ⟨hway.changes _, fun _ => hway.changes _, fun _ hin _ _ => ?_⟩
    rw [← hopened, createParents_of_inDirectory hin]

theorem confined_save (files : FileTree) (path : Path) (key : Text) (room : Room) :
    Confined files path room (save files path key room) := by
  unfold save
  cases trimmed? key with
  | none => exact confined_unchanged files path room _
  | some key =>
    cases readEntries files path with
    | error e => exact confined_unchanged files path room _
    | ok entries => exact confined_writeEntries files path _ room

theorem confined_clear (files : FileTree) (path : Path) (room : Room) :
    Confined files path room (clear files path room) := by
  unfold clear
  cases readEntries files path with
  | error e => exact confined_unchanged files path room _
  | ok entries =>
    dsimp only
    split
    · exact confined_writeEntries files path _ room
    · exact confined_unchanged files path room _

theorem workingDirectory_save (files : FileTree) (path : Path) (key : Text) (room : Room) :
    (save files path key room).1.workingDirectory = files.workingDirectory :=
  (confined_save files path key room).changes.workingDirectory

theorem workingDirectory_clear (files : FileTree) (path : Path) (room : Room) :
    (clear files path room).1.workingDirectory = files.workingDirectory :=
  (confined_clear files path room).changes.workingDirectory

/-! ### The operations on the key -/

namespace Keeps

theorem of_absent (h : Absent files path) : Keeps files path none := by
  refine ⟨?_, .inr h⟩
  rw [Credential.load, readEntries, h.bytesAt]
  rfl

/-- A key that is not blank becomes the one that is kept, unless the file is missing and cannot be
made. -/
theorem save (h : Keeps files path stored) {key : Text} (hk : Filled key) :
    ((save files path key).2 = .ok () ∧
      Keeps (Credential.save files path key).1 path (some (Text.trim key))) ∨
    ∃ e, (Credential.save files path key).2 = .error (.files e) ∧
      Keeps (Credential.save files path key).1 path stored := by
  obtain ⟨entries, hr, hstored⟩ := load_eq_ok_iff.mp h.load
  have hs := (sorted_of_readEntries hr).set entryName (Text.trim key)
  unfold Credential.save
  rw [trimmed?_of_filled hk]
  dsimp only
  rw [hr]
  dsimp only
  rcases writeEntries_cases files path (entries.set entryName (Text.trim key)) with
    ⟨files', hw, hb⟩ | ⟨files', e, hw, hno, -⟩
  · rw [hw]
    refine .inl ⟨rfl, ?_, .inl ⟨_, hb⟩⟩
    rw [load_of_reads (reads_of_bytesAt hs hb), Entries.lookup_set, if_pos rfl, Option.bind_some,
      trimmed?_of_filled (filled_trim hk), Text.trim_trim]
  · -- Nothing could be read, so nothing is kept, and the directories that were made do not matter.
    have habsent : Absent files path := h.place.resolve_left fun ⟨content, hc⟩ => hno content hc
    obtain ⟨-, rfl⟩ := readEntries_of_unreadable hno hr
    obtain rfl : stored = none := hstored.symm
    refine .inr ⟨e, by rw [hw], ?_⟩
    rcases writeEntries_opens files path with
      ⟨opened, l, -, -, hopens⟩ | ⟨opened, e', hopened, hopens, -⟩
    · rw [hopens] at hw
      cases (Prod.mk.inj hw).2
    · rw [hopens, ← hopened]
      exact of_absent habsent.createParents

/-- Afterwards no key is kept. -/
theorem clear (h : Keeps files path stored) :
    (clear files path).2 = .ok () ∧ Keeps (Credential.clear files path).1 path none := by
  obtain ⟨entries, hr, hstored⟩ := load_eq_ok_iff.mp h.load
  have hs := (sorted_of_readEntries hr).remove entryName
  unfold Credential.clear
  rw [hr]
  dsimp only
  cases hl : entries.lookup entryName with
  | none =>
    rw [hl] at hstored
    obtain rfl : stored = none := hstored.symm
    exact ⟨rfl, h⟩
  | some old =>
    rw [Option.isSome_some, if_pos rfl]
    rcases writeEntries_cases files path (entries.remove entryName) with
      ⟨files', hw, hb⟩ | ⟨files', e, -, hno, -⟩
    · rw [hw]
      refine ⟨rfl, ?_, .inl ⟨_, hb⟩⟩
      rw [load_of_reads (reads_of_bytesAt hs hb), Entries.lookup_remove, if_pos rfl]
      rfl
    · obtain ⟨-, rfl⟩ := readEntries_of_unreadable hno hr
      cases hl

/-! ### Other changes -/

/-- The key stays where directories are added elsewhere. -/
theorem of_extends {new : Location → Prop} (h : Keeps files path stored)
    (he : Extends new files files') (hnew : ¬ new (placeFrom files.workingDirectory path)) :
    Keeps files' path stored := by
  rcases h.place with ⟨content, hc⟩ | habsent
  · have hsame : files'.node? (placeFrom files.workingDirectory path) =
        files.node? (placeFrom files.workingDirectory path) :=
      (he.node? _).resolve_right fun hadded => hnew hadded.1
    have hc' := bytesAt_of_kept he.workingDirectory he.keepsDirectories hsame hc
    exact ⟨(load_congr (hc'.trans hc.symm)).trans h.load, .inl ⟨content, hc'⟩⟩
  · have habsent' := habsent.of_extends he hnew
    exact ⟨(load_congr (habsent'.bytesAt.trans habsent.bytesAt.symm)).trans h.load, .inr habsent'⟩

/-- The key stays where a file is put off the way. -/
theorem put (h : Keeps files path stored) {l : Location} {content : Bytes}
    (hl : ¬ Along files.workingDirectory path (Path.names path).length l)
    (hdir : files.node? l ≠ some .directory) : Keeps (files.put l (.file content)) path stored := by
  rcases h.place with ⟨old, hc⟩ | habsent
  · have hoff : placeFrom files.workingDirectory path ≠ l := by
      intro he
      exact hl ⟨_, Nat.le_refl _, by rw [placeFrom_firstNames_length, he]⟩
    have hkeep := keepsDirectories_put hdir (.file content)
    have hc' : (files.put l (.file content)).bytesAt path = .ok old := by
      refine bytesAt_of_kept ?_ hkeep ?_ hc
      · rfl
      · exact files.node?_put_of_ne hoff _
    exact ⟨(load_congr (hc'.trans hc.symm)).trans h.load, .inl ⟨old, hc'⟩⟩
  · have habsent' := habsent.put hl (.file content)
    exact ⟨(load_congr (habsent'.bytesAt.trans habsent.bytesAt.symm)).trans h.load, .inr habsent'⟩

end Keeps

end MangaPress.Credential
