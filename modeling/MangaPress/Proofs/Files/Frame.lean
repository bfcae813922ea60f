/-
# The frame of an operation on files

What an operation may change in a tree is told by the places at which it may put a file
(`FileTree.Changes`): no other file is made, changed or lost, directories stay, and where a directory
is added nothing was before. Operations one after the other change at most what each of them may
change. So a file keeps its bytes as long as none of them touches its place, and a path that lies in a
directory goes on to lie in it (`FileTree.InDirectory`).

Key definitions: `FileTree.Changes`, `FileTree.InDirectory`.
Key theorems: `FileTree.Changes.trans`, `FileTree.Changes.bytesAt`, `FileTree.changes_write`,
`FileTree.createParents_of_inDirectory`, `FileTree.InDirectory.of_changes`.
-/
import MangaPress.Proofs.Files.Change

namespace MangaPress.FileTree

variable {t t' t'' : FileTree} {p : Path} {touched touched' : Location → Prop}

/-- The second tree is the first one with directories added and with files put at some of these
places, where no directory was. -/
structure Changes (touched : Location → Prop) (t t' : FileTree) : Prop where
  workingDirectory : t'.workingDirectory = t.workingDirectory
  node? : ∀ l, t'.node? l = t.node? l ∨
    t.node? l = none ∧ t'.node? l = some .directory ∨
    touched l ∧ t.node? l ≠ some .directory ∧ ∃ content, t'.node? l = some (.file content)

namespace Changes

theorem refl (touched : Location → Prop) (t : FileTree) : Changes touched t t :=
  ⟨rfl, fun _ => .inl rfl⟩

theorem mono (h : Changes touched t t') (hle : ∀ l, touched l → touched' l) :
    Changes touched' t t' where
  workingDirectory := h.workingDirectory
  node? l := by
    rcases h.node? l with hsame | hadded | ⟨hl, hput⟩
    · exact .inl hsame
    · exact .inr (.inl hadded)
    · exact .inr (.inr ⟨hle l hl, hput⟩)

/-- What two operations change is changed by one of them. -/
theorem trans (h : Changes touched t t') (h' : Changes touched t' t'') : Changes touched t t'' where
  workingDirectory := h'.workingDirectory.trans h.workingDirectory
  node? l := by
    rcases h'.node? l with hsame | ⟨hnone, hdir⟩ | ⟨hl, hnot, hfile⟩
    · rw [hsame]
      exact h.node? l
    · rcases h.node? l with hfirst | ⟨-, hadded⟩ | ⟨-, -, content, hput⟩
      · exact .inr (.inl ⟨hfirst.symm.trans hnone, hdir⟩)
      · simp [hadded] at hnone
      · simp [hput] at hnone
    · rcases h.node? l with hfirst | ⟨-, hadded⟩ | ⟨-, hfirst, -⟩
      · exact .inr (.inr ⟨hl, hfirst ▸ hnot, hfile⟩)
      · exact absurd hadded hnot
      · exact .inr (.inr ⟨hl, hfirst, hfile⟩)

theorem keepsDirectories (h : Changes touched t t') : KeepsDirectories t t' := by
  intro l hl
  rcases h.node? l with hsame | ⟨hnone, -⟩ | ⟨-, hnot, -⟩
  · exact hsame.trans hl
  · simp [hl] at hnone
  · exact absurd hl hnot

/-- What is there stays as it is where nothing is put. -/
theorem node?_of_untouched (h : Changes touched t t') {l : Location} (hl : ¬ touched l) {n : Node}
    (hn : t.node? l = some n) : t'.node? l = some n := by
  rcases h.node? l with hsame | ⟨hnone, -⟩ | ⟨hput, -⟩
  · exact hsame.trans hn
  · simp [hn] at hnone
  · exact absurd hput hl

/-- **A file keeps its bytes where nothing is put.** -/
theorem bytesAt (h : Changes touched t t') (hp : ¬ touched (placeFrom t.workingDirectory p))
    {content : Bytes} (hb : t.bytesAt p = .ok content) : t'.bytesAt p = .ok content := by
  obtain ⟨l, hl⟩ := bytesAt_eq_ok_iff.mp hb
  have hplace : l = placeFrom t.workingDirectory p := location_of_find hl
  have hnode := node?_of_follow (find_eq_ok_iff.mp hl).2.1
  rw [hplace] at hnode
  have hsame := (h.node?_of_untouched hp hnode).trans hnode.symm
  exact bytesAt_of_kept h.workingDirectory h.keepsDirectories hsame hb

end Changes

/-! ### The operations -/

theorem Extends.changes {new : Location → Prop} (h : Extends new t t')
    (touched : Location → Prop) : Changes touched t t' :=
  ⟨h.workingDirectory, fun l => (h.node? l).imp_right fun hadded => .inl hadded.2⟩

theorem changes_put {l : Location} (hroot : l ≠ []) (hnot : t.node? l ≠ some .directory)
    (content : Bytes) : Changes (· = l) t (t.put l (.file content)) := by
  refine ⟨rfl, fun other => ?_⟩
  by_cases hl : other = l
  · subst hl
    exact .inr (.inr ⟨rfl, hnot, content, t.node?_put_self hroot _⟩)
  · exact .inl (t.node?_put_of_ne hl _)

/-- Writing a file touches its place, whether all of it is written or not. -/
theorem changes_write (t : FileTree) (p : Path) (content : Bytes) (room : Room) :
    Changes (· = placeFrom t.workingDirectory p) t (t.write p content room).1 := by
  rcases t.write_cases p with ⟨l, hl⟩ | ⟨e, herror, -⟩
  · rw [hl.write_eq, ← hl.eq_placeFrom]
    exact changes_put hl.ne_nil hl.node?_ne _
  · rw [herror]
    exact .refl _ t

/-! ### Paths in directories -/

/-- The path lies in a directory that is there; a single name lies in the working directory. -/
def InDirectory (t : FileTree) (p : Path) : Prop :=
  ∀ parent ∈ Path.parent? p, parent = [] ∨ t.isDirectory parent = true

/-- Above a path in a directory no directory is missing. -/
theorem createParents_of_inDirectory (h : InDirectory t p) : t.createParents p = (t, .ok ()) := by
  rw [createParents_eq]
  apply createDirectoriesTo_of_isDirectory
  intro hpos
  have hnames : Path.names p ≠ [] := by
    intro hnil
    simp [hnil] at hpos
  have hparent : Path.parent? p = some (Path.firstNames p ((Path.names p).length - 1)) := by
    rw [Path.parent?, if_neg (by simpa using hnames)]
  refine (h _ hparent).resolve_left (Path.firstNames_ne_nil ?_)
  rw [Ne, List.take_eq_nil_iff]
  exact not_or.mpr ⟨by omega, hnames⟩

theorem isDirectory_of_kept (hwd : t'.workingDirectory = t.workingDirectory)
    (hkeep : KeepsDirectories t t') (h : t.isDirectory p = true) : t'.isDirectory p = true := by
  obtain ⟨l, hl⟩ := isDirectory_eq_true_iff.mp h
  obtain ⟨hadmitted, hfollow, -⟩ := find_eq_ok_iff.mp hl
  have hdir := node?_of_follow hfollow
  have horigin : t'.origin p = t.origin p := by rw [origin, origin, hwd]
  have hfollow' : t'.follow (t'.origin p) (Path.names p) = .ok (.node l .directory) := by
    rw [horigin]
    exact follow_of_kept hkeep ((hkeep l hdir).trans hdir.symm) hfollow
  exact isDirectory_eq_true_iff.mpr ⟨l, find_of_follow_directory hadmitted hfollow'⟩

theorem InDirectory.of_changes (h : InDirectory t p) (hc : Changes touched t t') :
    InDirectory t' p := by
  intro parent hparent
  exact (h parent hparent).imp_right (isDirectory_of_kept hc.workingDirectory hc.keepsDirectories)

end MangaPress.FileTree
