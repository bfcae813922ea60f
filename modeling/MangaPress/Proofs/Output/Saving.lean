/-
# What saving a page leaves behind

Saving a page first adds directories on the way to its folder, where nothing was. The write of the
image is the last step, once its data are known to be Base64. So a page that is saved lies at the path
that is given out, with the bytes of the image, and one that is not leaves directories at most, or the
beginning of its file where the disk has no room for all of it.

Key definition: `Output.IsFolder`.
Key theorems: `Output.save_cases`, `Output.save_keeps`.
-/
import MangaPress.Output
import MangaPress.Proofs.Files.Frame

namespace MangaPress.Output

open FileTree

variable {files : FileTree} {root : Path} {session : Option Text} {date : Date}

/-- The folders that the pages of a day can be saved in: that of the session, or else any with a
number. -/
inductive IsFolder (root : Path) (session : Option Text) (date : Date) : Path → Prop where
  | named {name : Text} (h : session = some name) :
    IsFolder root session date (Path.join (dayPath root date) name)
  | numbered (h : session = none) (n : Nat) :
    IsFolder root session date (Path.join (dayPath root date) (Text.ofNat n))

theorem exists_isFolder (root : Path) (session : Option Text) (date : Date) :
    ∃ folder, IsFolder root session date folder := by
  cases session with
  | some name => exact ⟨_, .named rfl⟩
  | none => exact ⟨_, .numbered rfl 1⟩

theorem isFolder_of_sessionPath {folder : Path}
    (h : sessionPath files root session date = .ok folder) : IsFolder root session date folder := by
  unfold sessionPath at h
  dsimp only at h
  cases session with
  | some name =>
    cases h
    exact .named rfl
  | none =>
    cases hn : nextNumber files (dayPath root date) with
    | error e =>
      rw [hn] at h
      cases h
    | ok n =>
      rw [hn] at h
      cases h
      exact .numbered rfl n

/-- The next path is in a folder of the day, for which directories are added as far as they are
missing and can be. -/
theorem nextPath_cases (files : FileTree) (root : Path) (fileName : Text) (session : Option Text)
    (date : Date) : ∃ folder opened, IsFolder root session date folder ∧
      Extends (Along files.workingDirectory folder (Path.names folder).length) files opened ∧
      ((∃ e, nextPath files root fileName session date = (opened, .error e)) ∨
        nextPath files root fileName session date = (opened, .ok (Path.join folder fileName))) := by
  unfold nextPath
  cases hs : sessionPath files root session date with
  | error e =>
    obtain ⟨folder, hfolder⟩ := exists_isFolder root session date
    exact ⟨folder, files, hfolder, .refl _ files, .inl ⟨e, rfl⟩⟩
  | ok folder =>
    have hopened := createDirectories_extends files folder
    refine ⟨folder, (files.createDirectories folder).1, isFolder_of_sessionPath hs, hopened, ?_⟩
    dsimp only
    cases files.createDirectories folder with
    | mk opened created =>
      cases created with
      | error e => exact .inl ⟨_, rfl⟩
      | ok _ => exact .inr rfl

/-- **Saving a page fails before anything is written, or writes its bytes last**, as far as there is
room for them. -/
theorem save_cases (files : FileTree) (root : Path) (fileName : Text) (session : Option Text)
    (date : Date) (image : Image) (room : Room) : ∃ folder opened,
      IsFolder root session date folder ∧
      Extends (Along files.workingDirectory folder (Path.names folder).length) files opened ∧
      ((∃ e, save files root fileName session date image room = (opened, .error e)) ∨
        ∃ bytes l, Base64.decode? image.data = some bytes ∧
          opened.OpensAt (Path.join folder fileName) l ∧
          save files root fileName session date image room =
            (opened.put l (.file (room.part bytes)),
              if room.holds bytes then .ok (Path.join folder fileName)
              else .error (.write (Path.join folder fileName) .noSpace))) := by
  obtain ⟨folder, opened, hfolder, hopened, hnext⟩ :=
    nextPath_cases files root fileName session date
  refine ⟨folder, opened, hfolder, hopened, ?_⟩
  unfold save
  rcases hnext with ⟨e, hnext⟩ | hnext
  · rw [hnext]
    exact .inl ⟨e, rfl⟩
  · rw [hnext]
    dsimp only
    unfold saveImage
    cases Base64.decode? image.data with
    | none => exact .inl ⟨_, rfl⟩
    | some bytes =>
      dsimp only
      rcases opened.write_cases (Path.join folder fileName) with ⟨l, hl⟩ | ⟨e, herror, -⟩
      · refine .inr ⟨bytes, l, rfl, hl, ?_⟩
        rw [hl.write_eq, fill]
        cases room.holds bytes <;> rfl
      · rw [herror]
        exact .inl ⟨_, rfl⟩

/-- The page lies at the path, or there was no room for all of it. -/
def Names (room : Room) (path : Path) (result : Except OutputError Path) : Prop :=
  result = .ok path ∨ room ≠ .ample ∧ result = .error (.write path .noSpace)

/-- Saving a page touches nothing but the file at the path that is given out, or that there was no room
for. -/
theorem changes_save (files : FileTree) (root : Path) (fileName : Text) (session : Option Text)
    (date : Date) (image : Image) (room : Room) :
    Changes (fun l => ∃ path, Names room path (save files root fileName session date image room).2 ∧
        l = placeFrom files.workingDirectory path)
      files (save files root fileName session date image room).1 := by
  obtain ⟨folder, opened, -, hopened, ⟨e, he⟩ | ⟨bytes, l, -, hl, hsaved⟩⟩ :=
    save_cases files root fileName session date image room
  · rw [he]
    exact hopened.changes _
  · rw [hsaved]
    refine (hopened.changes _).trans ((changes_put hl.ne_nil hl.node?_ne _).mono fun l' hl' => ?_)
    refine ⟨Path.join folder fileName, ?_, ?_⟩
    · cases hholds : room.holds bytes
      · refine .inr ⟨?_, rfl⟩
        rintro rfl
        cases hholds
      · exact .inl rfl
    · rw [hl', hl.eq_placeFrom, hopened.workingDirectory]

theorem workingDirectory_save (files : FileTree) (root : Path) (fileName : Text)
    (session : Option Text) (date : Date) (image : Image) (room : Room) :
    (save files root fileName session date image room).1.workingDirectory = files.workingDirectory :=
  (changes_save files root fileName session date image room).workingDirectory

/-- Where a page is saved, the bytes of the image are found at its path; where it is not, every file is
what it was, and directories were added at most, but for the file of the page if there was no room for
all of it, which holds the beginning of it. -/
theorem save_keeps (files : FileTree) (root : Path) (fileName : Text) (session : Option Text)
    (date : Date) (image : Image) (room : Room) :
    (∃ e files', save files root fileName session date image room = (files', .error e) ∧
      ∀ l, files'.node? l = files.node? l ∨
        files.node? l = none ∧ files'.node? l = some .directory) ∨
    (∃ path files' bytes,
      save files root fileName session date image room = (files', .ok path) ∧
      Base64.decode? image.data = some bytes ∧ files'.bytesAt path = .ok bytes) ∨
    ∃ path files' bytes,
      save files root fileName session date image room =
        (files', .error (.write path .noSpace)) ∧
      Base64.decode? image.data = some bytes ∧ room.holds bytes = false ∧
      files'.bytesAt path = .ok (room.part bytes) ∧
      ∀ l, l ≠ placeFrom files.workingDirectory path → files'.node? l = files.node? l ∨
        files.node? l = none ∧ files'.node? l = some .directory := by
  obtain ⟨folder, opened, -, hopened, ⟨e, he⟩ | ⟨bytes, l, hbytes, hl, hsaved⟩⟩ :=
    save_cases files root fileName session date image room
  · exact .inl ⟨e, opened, he, fun l => (hopened.node? l).imp_right And.right⟩
  · have hthere := hl.bytesAt_put (room.part bytes)
    cases hholds : room.holds bytes with
    | true =>
      rw [hholds, if_pos rfl] at hsaved
      rw [Room.part_of_holds hholds] at hthere hsaved
      exact .inr (.inl ⟨_, _, bytes, hsaved, hbytes, hthere⟩)
    | false =>
      rw [hholds, if_neg Bool.false_ne_true] at hsaved
      refine .inr (.inr ⟨_, _, bytes, hsaved, hbytes, hholds, hthere, fun l' hl' => ?_⟩)
      rw [← hopened.workingDirectory, ← hl.eq_placeFrom] at hl'
      rw [node?_put_of_ne _ hl']
      exact (hopened.node? l').imp_right And.right

end MangaPress.Output
