/-
# Trees that differ in one file

Two trees are alike but for a path if they hold the same files and directories, with the same bytes
except perhaps in the file at the place of that path, where the bytes are related (`AlikeBut`). No
operation on files tells such trees apart, apart from reading that file: it fails with the same error
or succeeds on both, and leaves trees that are alike again.

The place of a path is where its names lead if all of them are there.

Key definitions: `FileTree.placeFrom`, `FileTree.AlikeBut`.
Key theorems: `FileTree.AlikeBut.find`, `FileTree.AlikeBut.bytesAt`, `FileTree.AlikeBut.write`,
`FileTree.AlikeBut.createDirectories`, `FileTree.AlikeBut.directoryNames`.
-/
import MangaPress.Proofs.Agree
import MangaPress.Proofs.Files.Tree
import Mathlib.Data.List.Forall2

namespace MangaPress.FileTree

/-! ### Places -/

/-- Where names lead from a location. -/
def walk (start : Location) : List Text → Location
  | [] => start
  | name :: rest => walk (if name = ['.', '.'] then start.dropLast else start ++ [name]) rest

/-- Where the names of a path lead, seen from a working directory. -/
def placeFrom (wd : Location) (p : Path) : Location :=
  walk (if Path.isAbsolute p then [] else wd) (Path.names p)

theorem walk_concat {name : Text} (hn : name ≠ ['.', '.']) : ∀ (names : List Text) (start : Location),
    walk start (names ++ [name]) = walk start names ++ [name]
  | [], _ => if_neg hn
  | _ :: rest, _ => walk_concat hn rest _

theorem location_of_follow {t : FileTree} {found : Found} : ∀ {names : List Text} {start : Location},
    t.follow start names = .ok found → found.location = walk start names
  | [], start, h => by
    obtain ⟨n, -, rfl⟩ := follow_nil_eq_ok_iff.mp h
    rfl
  | name :: rest, start, h => by
    unfold walk
    obtain ⟨-, ⟨rfl, hup⟩ | ⟨hn, -, ⟨rfl, -, rfl⟩ | ⟨-, hdown⟩⟩⟩ := follow_cons_cases h
    · rw [if_pos rfl]
      exact location_of_follow hup
    · rw [if_neg hn]
      rfl
    · rw [if_neg hn]
      exact location_of_follow hdown

theorem location_of_find {t : FileTree} {p : Path} {found : Found} (h : t.find p = .ok found) :
    found.location = placeFrom t.workingDirectory p :=
  location_of_follow (find_eq_ok_iff.mp h).2.1

/-! ### Alike -/

/-- The same at a location, but for the bytes of a file at the place. -/
inductive NodeAlike (place : Location) (S : Bytes → Bytes → Prop) (l : Location) :
    Node → Node → Prop where
  | same (n : Node) : NodeAlike place S l n n
  | content {c c' : Bytes} (hl : l = place) (h : S c c') : NodeAlike place S l (.file c) (.file c')

/-- The same, with this working directory, but for the bytes of the file at the place of the path. -/
structure AlikeBut (wd : Location) (p : Path) (S : Bytes → Bytes → Prop) (t t' : FileTree) :
    Prop where
  here : t.workingDirectory = wd
  there : t'.workingDirectory = wd
  entries : List.Forall₂ (fun e e' => e.1 = e'.1 ∧ NodeAlike (placeFrom wd p) S e.1 e.2 e'.2)
    t.entries t'.entries

namespace AlikeBut

variable {wd : Location} {p : Path} {S : Bytes → Bytes → Prop} {t t' : FileTree}

theorem refl (p : Path) (S : Bytes → Bytes → Prop) (t : FileTree) :
    AlikeBut t.workingDirectory p S t t :=
  ⟨rfl, rfl, List.forall₂_same.mpr fun e _ => ⟨rfl, .same e.2⟩⟩

theorem location_of_find (h : AlikeBut wd p S t t') {q : Path} {found : Found}
    (hf : t.find q = .ok found) : found.location = placeFrom wd q :=
  h.here ▸ FileTree.location_of_find hf

/-- What stands at a location is the same in both trees, or a file at the place. -/
theorem node? (h : AlikeBut wd p S t t') (l : Location) :
    t.node? l = t'.node? l ∨ ∃ c c', l = placeFrom wd p ∧ S c c' ∧
      t.node? l = some (.file c) ∧ t'.node? l = some (.file c') := by
  unfold FileTree.node?
  split
  · exact .inl rfl
  · have hentries := h.entries
    generalize t.entries = es, t'.entries = es' at hentries
    induction hentries with
    | nil => exact .inl rfl
    | @cons e e' es es' he _ ih =>
      obtain ⟨m, n⟩ := e
      obtain ⟨m', n'⟩ := e'
      obtain ⟨rfl, hn⟩ := he
      rw [lookup_cons_eq_ite, lookup_cons_eq_ite]
      split
      · rename_i hl
        cases hn with
        | same => exact .inl rfl
        | content hm hs => exact .inr ⟨_, _, hl.trans hm, hs, rfl, rfl⟩
      · exact ih

theorem isNone_node? (h : AlikeBut wd p S t t') (l : Location) :
    (t.node? l).isNone = (t'.node? l).isNone := by
  rcases h.node? l with hn | ⟨c, c', -, -, hn, hn'⟩
  · rw [hn]
  · rw [hn, hn']
    rfl

/-- Names lead to the same in both trees, or to the file at the place. -/
theorem follow (h : AlikeBut wd p S t t') : ∀ (names : List Text) (start : Location),
    t.follow start names = t'.follow start names ∨ ∃ c c', S c c' ∧
      t.follow start names = .ok (.node (placeFrom wd p) (.file c)) ∧
      t'.follow start names = .ok (.node (placeFrom wd p) (.file c'))
  | [], start => by
    unfold FileTree.follow
    rcases h.node? start with hn | ⟨c, c', rfl, hs, hn, hn'⟩
    · rw [hn]
      exact .inl rfl
    · rw [hn, hn']
      exact .inr ⟨c, c', hs, rfl, rfl⟩
  | name :: rest, start => by
    unfold FileTree.follow
    rcases h.node? start with hn | ⟨c, c', -, -, hn, hn'⟩
    · rw [hn, h.isNone_node?]
      split
      · exact .inl rfl
      · exact .inl rfl
      · split
        · exact h.follow rest _
        · split
          · exact .inl rfl
          · split
            · exact .inl rfl
            · exact h.follow rest _
    · rw [hn, hn']
      exact .inl rfl

theorem find (h : AlikeBut wd p S t t') (q : Path) :
    t.find q = t'.find q ∨ ∃ c c', S c c' ∧ t.find q = .ok (.node (placeFrom wd p) (.file c)) ∧
      t'.find q = .ok (.node (placeFrom wd p) (.file c')) := by
  unfold FileTree.find
  rw [h.here, h.there]
  split
  · exact .inl rfl
  split
  · exact .inl rfl
  split
  · exact .inl rfl
  rcases h.follow (Path.names q) (if Path.isAbsolute q then [] else wd) with
    hf | ⟨c, c', hs, hf, hf'⟩
  · rw [hf]
    exact .inl rfl
  · rw [hf, hf']
    dsimp only
    split
    · exact .inl rfl
    · exact .inr ⟨c, c', hs, rfl, rfl⟩

theorem isDirectory (h : AlikeBut wd p S t t') (q : Path) : t.isDirectory q = t'.isDirectory q := by
  unfold FileTree.isDirectory
  rcases h.find q with hf | ⟨c, c', -, hf, hf'⟩
  · rw [hf]
  · rw [hf, hf']

/-! ### Reading -/

theorem bytesAt (h : AlikeBut wd p S t t') (q : Path) :
    Agree (fun c c' => c = c' ∨ S c c') (t.bytesAt q) (t'.bytesAt q) := by
  unfold FileTree.bytesAt
  rcases h.find q with hf | ⟨c, c', hs, hf, hf'⟩
  · rw [hf]
    exact (agree_eq_iff.mpr rfl).mono fun _ _ => .inl
  · rw [hf, hf']
    exact .ok (.inr hs)

theorem directoryNames (h : AlikeBut wd p S t t') (q : Path) :
    t.directoryNames q = t'.directoryNames q := by
  have hat : ∀ l, t.directoryNamesAt l = t'.directoryNamesAt l := by
    intro l
    have hentries := h.entries
    unfold directoryNamesAt
    generalize t.entries = es, t'.entries = es' at hentries
    induction hentries with
    | nil => rfl
    | @cons e e' es es' he _ ih =>
      obtain ⟨m, n⟩ := e
      obtain ⟨m', n'⟩ := e'
      obtain ⟨rfl, hn⟩ := he
      rw [List.filterMap_cons, List.filterMap_cons, ih]
      cases hn with
      | same => rfl
      | content =>
        dsimp only
        cases m.getLast? <;> rfl
  unfold FileTree.directoryNames
  rcases h.find q with hf | ⟨c, c', -, hf, hf'⟩
  · rw [hf]
    simp only [hat]
  · rw [hf, hf']

/-! ### Writing -/

theorem put (h : AlikeBut wd p S t t') {l : Location} {n n' : Node}
    (hn : NodeAlike (placeFrom wd p) S l n n') : AlikeBut wd p S (t.put l n) (t'.put l n') := by
  refine ⟨h.here, h.there, .cons ⟨rfl, hn⟩ ?_⟩
  refine List.rel_filter (fun e e' he => ?_) h.entries
  show (e.1 != l) = true ↔ (e'.1 != l) = true
  rw [he.1]

/-- What is written at the place of the path may differ, what is written elsewhere is the same. -/
theorem write (h : AlikeBut wd p S t t') (room : Room) {q : Path} {c c' : Bytes}
    (hholds : room.holds c = room.holds c')
    (hc : NodeAlike (placeFrom wd p) S (placeFrom wd q) (.file (room.part c))
      (.file (room.part c'))) :
    Both (AlikeBut wd p S) Eq (t.write q c room) (t'.write q c' room) := by
  have hfill : ∀ l, l = placeFrom wd q →
      Both (AlikeBut wd p S) Eq (t.fill l c room) (t'.fill l c' room) := by
    rintro l rfl
    exact ⟨h.put hc, by rw [hholds]⟩
  unfold FileTree.write
  rcases h.find q with hf | ⟨d, d', -, hf, hf'⟩
  · rw [← hf]
    cases hx : t.find q with
    | error e => exact ⟨h, rfl⟩
    | ok found =>
      have hplace := h.location_of_find hx
      cases found with
      | node l n =>
        cases n with
        | file d => exact hfill l hplace
        | directory => exact ⟨h, rfl⟩
      | free l =>
        dsimp only
        split
        · exact ⟨h, rfl⟩
        · exact hfill l hplace
  · rw [hf, hf']
    exact hfill _ (h.location_of_find hf)

theorem createDirectory (h : AlikeBut wd p S t t') (q : Path) :
    Agree (AlikeBut wd p S) (t.createDirectory q) (t'.createDirectory q) := by
  unfold FileTree.createDirectory
  rcases h.find q with hf | ⟨c, c', -, hf, hf'⟩
  · rw [← hf]
    cases t.find q with
    | error e => exact .error e
    | ok found =>
      cases found with
      | node l n => exact .error _
      | free l => exact .ok (h.put (.same _))
  · rw [hf, hf']
    exact .error _

theorem createDirectoriesTo (q : Path) : ∀ (n : Nat) {t t' : FileTree}, AlikeBut wd p S t t' →
    Both (AlikeBut wd p S) Eq (t.createDirectoriesTo q n) (t'.createDirectoriesTo q n)
  | 0, t, t', h => ⟨h, rfl⟩
  | n + 1, t, t', h => by
    -- An error is passed over where a directory is there, and it is there in both or in neither.
    have hgiven : ∀ {t t' : FileTree}, AlikeBut wd p S t t' → ∀ (q : Path) (e : FileError),
        (if t.isDirectory q then Except.ok () else .error e) =
          if t'.isDirectory q then Except.ok () else .error e := fun h q e => by
      rw [h.isDirectory q]
    have hcreate := h.createDirectory (Path.firstNames q (n + 1))
    unfold FileTree.createDirectoriesTo
    dsimp only
    generalize t.createDirectory _ = x, t'.createDirectory _ = x' at hcreate
    cases hcreate with
    | ok h' => exact ⟨h', rfl⟩
    | error e =>
      cases e with
      | notFound =>
        have habove := createDirectoriesTo q n h
        generalize t.createDirectoriesTo q n = y, t'.createDirectoriesTo q n = y' at habove
        obtain @⟨u, u', r, _, habove, rfl⟩ := habove
        cases r with
        | error e => exact ⟨habove, rfl⟩
        | ok _ =>
          have hagain := AlikeBut.createDirectory habove (Path.firstNames q (n + 1))
          dsimp only
          generalize u.createDirectory _ = x, u'.createDirectory _ = x' at hagain
          cases hagain with
          | ok h' => exact ⟨h', rfl⟩
          | error e => exact ⟨habove, hgiven habove _ e⟩
      | _ => exact ⟨h, hgiven h _ _⟩

theorem createDirectories (h : AlikeBut wd p S t t') (q : Path) :
    Both (AlikeBut wd p S) Eq (t.createDirectories q) (t'.createDirectories q) :=
  createDirectoriesTo q _ h

theorem createParents (h : AlikeBut wd p S t t') (q : Path) :
    Both (AlikeBut wd p S) Eq (t.createParents q) (t'.createParents q) := by
  unfold FileTree.createParents
  cases Path.parent? q with
  | none => exact ⟨h, rfl⟩
  | some parent => exact h.createDirectories parent

end AlikeBut

end MangaPress.FileTree
