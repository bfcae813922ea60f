/-
# What an operation changes in a tree

Creating the directories of a path adds directories on the way to its place, where nothing was, and
changes nothing else (`FileTree.Extends`). Writing a file puts it at the place of its path and
changes nothing else. So what a path leads to stays the same as long as nothing is put at its place,
and a file that is missing (`FileTree.Absent`) stays missing as long as no directory is added at its
place and no file is put on the way there.

Key definitions: `FileTree.Along`, `FileTree.Extends`, `FileTree.Absent`.
Key theorems: `FileTree.node?_of_along`, `FileTree.createDirectories_extends`,
`FileTree.follow_of_createDirectories`, `FileTree.OpensAt.eq_placeFrom`, `FileTree.bytesAt_of_kept`,
`FileTree.Absent.bytesAt`, `FileTree.Absent.of_extends`, `FileTree.Absent.put`.
-/
import MangaPress.Proofs.Files.Alike
import MangaPress.Proofs.Files.Directories

namespace MangaPress.FileTree

variable {t t' t'' : FileTree} {wd : Location} {p : Path}

/-! ### Places on the way -/

/-- The place of one of the first `n` names of a path. -/
def Along (wd : Location) (p : Path) (n : Nat) (l : Location) : Prop :=
  ∃ m ≤ n, l = placeFrom wd (Path.firstNames p m)

theorem placeFrom_firstNames (wd : Location) (p : Path) (n : Nat) :
    placeFrom wd (Path.firstNames p n) =
      walk (if Path.isAbsolute p then [] else wd) ((Path.names p).take n) := by
  rw [placeFrom, Path.isAbsolute_firstNames, Path.names_firstNames]

theorem placeFrom_firstNames_length (wd : Location) (p : Path) :
    placeFrom wd (Path.firstNames p (Path.names p).length) = placeFrom wd p := by
  rw [placeFrom_firstNames, List.take_length, placeFrom]

theorem walk_of_plain : ∀ {names : List Text}, (∀ name ∈ names, name ≠ ['.', '.']) →
    ∀ start : Location, walk start names = start ++ names
  | [], _, start => (List.append_nil start).symm
  | name :: rest, h, start => by
    rw [walk, if_neg (h name List.mem_cons_self),
      walk_of_plain fun n hn => h n (List.mem_cons_of_mem _ hn)]
    exact List.append_assoc start [name] rest

/-- On the way to a directory there are directories. -/
theorem node?_of_along {base l : Location}
    (h : t.follow (t.origin p) (Path.names p) = .ok (.node base .directory)) {n : Nat}
    (hl : Along t.workingDirectory p n l) : t.node? l = some .directory := by
  obtain ⟨m, -, rfl⟩ := hl
  have hplace : placeFrom t.workingDirectory (Path.firstNames p m) =
      walk (t.origin p) ((Path.names p).take m) := placeFrom_firstNames _ p m
  rw [hplace]
  rw [← List.take_append_drop m (Path.names p)] at h
  by_cases hdrop : (Path.names p).drop m = []
  · rw [hdrop, List.append_nil] at h
    have hbase : base = walk (t.origin p) ((Path.names p).take m) := location_of_follow h
    exact hbase ▸ node?_of_follow h
  · obtain ⟨l, hfollow, -⟩ := follow_of_append hdrop h
    have hl : l = walk (t.origin p) ((Path.names p).take m) := location_of_follow hfollow
    exact hl ▸ node?_of_follow hfollow

/-! ### Added directories -/

/-- The second tree is the first one with directories added, at locations of this kind. -/
structure Extends (new : Location → Prop) (t t' : FileTree) : Prop where
  workingDirectory : t'.workingDirectory = t.workingDirectory
  node? : ∀ l, t'.node? l = t.node? l ∨
    new l ∧ t.node? l = none ∧ t'.node? l = some .directory

namespace Extends

variable {new new' : Location → Prop}

theorem refl (new : Location → Prop) (t : FileTree) : Extends new t t :=
  ⟨rfl, fun _ => .inl rfl⟩

theorem mono (h : Extends new t t') (hnew : ∀ l, new l → new' l) : Extends new' t t' :=
  ⟨h.workingDirectory, fun l => (h.node? l).imp_right fun ⟨hl, hadded⟩ => ⟨hnew l hl, hadded⟩⟩

theorem trans (h : Extends new t t') (h' : Extends new t' t'') : Extends new t t'' where
  workingDirectory := h'.workingDirectory.trans h.workingDirectory
  node? l := by
    rcases h'.node? l with hsame | ⟨hl, hnone, hdir⟩
    · rw [hsame]
      exact h.node? l
    · rcases h.node? l with hsame | ⟨-, -, hdir'⟩
      · exact .inr ⟨hl, hsame.symm.trans hnone, hdir⟩
      · rw [hdir'] at hnone
        cases hnone

/-- What is there stays. -/
theorem node?_of_some (h : Extends new t t') {l : Location} {n : Node} (hn : t.node? l = some n) :
    t'.node? l = some n := by
  rcases h.node? l with hsame | ⟨-, hnone, -⟩
  · exact hsame.trans hn
  · rw [hn] at hnone
    cases hnone

end Extends

theorem createDirectory_extends (h : t.createDirectory p = .ok t') :
    Extends (· = placeFrom t.workingDirectory p) t t' := by
  unfold createDirectory at h
  cases hf : t.find p with
  | error e =>
    rw [hf] at h
    cases h
  | ok found =>
    rw [hf] at h
    cases found with
    | node l n => cases h
    | free l =>
      cases h
      have hplace : l = placeFrom t.workingDirectory p := location_of_find hf
      have hfree : t.node? l = none := node?_of_follow_free (find_eq_ok_iff.mp hf).2.1
      have hroot : l ≠ [] := by
        rintro rfl
        rw [t.node?_nil] at hfree
        cases hfree
      refine ⟨rfl, fun other => ?_⟩
      by_cases ho : other = l
      · subst ho
        exact .inr ⟨hplace, hfree, t.node?_put_self hroot _⟩
      · exact .inl (t.node?_put_of_ne ho _)

/-- Creating the directories of a path adds directories on the way. -/
theorem createDirectoriesTo_extends (p : Path) : ∀ (n : Nat) (t : FileTree),
    Extends (Along t.workingDirectory p n) t (t.createDirectoriesTo p n).1
  | 0, t => .refl _ t
  | n + 1, t => by
    have hlast : ∀ {u u' : FileTree}, u.createDirectory (Path.firstNames p (n + 1)) = .ok u' →
        Extends (Along u.workingDirectory p (n + 1)) u u' := fun hu =>
      (createDirectory_extends hu).mono fun l hl => ⟨n + 1, Nat.le_refl _, hl⟩
    have hfirst : Extends (Along t.workingDirectory p (n + 1)) t (t.createDirectoriesTo p n).1 :=
      (createDirectoriesTo_extends p n t).mono fun l ⟨m, hm, hl⟩ => ⟨m, Nat.le_succ_of_le hm, hl⟩
    rw [createDirectoriesTo]
    split
    · rename_i u hu
      exact hlast hu
    · split
      · rename_i u e hu
        rw [hu] at hfirst
        exact hfirst
      · rename_i u _ hu
        rw [hu] at hfirst
        split
        · rename_i u' hu'
          have hagain := hlast hu'
          rw [hfirst.workingDirectory] at hagain
          exact hfirst.trans hagain
        · exact hfirst
    · exact .refl _ t

theorem createDirectories_extends (t : FileTree) (p : Path) :
    Extends (Along t.workingDirectory p (Path.names p).length) t (t.createDirectories p).1 :=
  createDirectoriesTo_extends p _ t

theorem createParents_extends (t : FileTree) (p : Path) :
    Extends (Along t.workingDirectory p ((Path.names p).length - 1)) t (t.createParents p).1 := by
  rw [createParents_eq]
  exact createDirectoriesTo_extends p _ t

/-- The path of a directory that was created leads to it. -/
theorem follow_of_createDirectories (hp : Path.names p ≠ [])
    (h : t.createDirectories p = (t', .ok ())) :
    t'.follow (t'.origin p) (Path.names p) =
      .ok (.node (placeFrom t.workingDirectory p) .directory) := by
  have hwd := (createDirectories_extends t p).workingDirectory
  obtain ⟨n, hn, htake⟩ := Path.exists_length_names hp
  rw [h] at hwd
  rw [createDirectories, hn] at h
  obtain ⟨l, hl⟩ := isDirectory_eq_true_iff.mp (isDirectory_of_createDirectoriesTo h)
  obtain ⟨-, hfollow, -⟩ := find_eq_ok_iff.mp hl
  rw [follow_firstNames, htake] at hfollow
  have hplace : l = placeFrom t'.workingDirectory p := location_of_follow hfollow
  rw [← hwd, ← hplace]
  exact hfollow

/-! ### Written files -/

theorem OpensAt.eq_placeFrom {l : Location} (h : t.OpensAt p l) :
    l = placeFrom t.workingDirectory p := by
  cases h with
  | file found => exact location_of_find found
  | free found _ => exact location_of_find found

/-! ### What stays -/

/-- The directories of one tree are directories of the other. -/
def KeepsDirectories (t t' : FileTree) : Prop :=
  ∀ l, t.node? l = some .directory → t'.node? l = some .directory

theorem Extends.keepsDirectories {new : Location → Prop} (h : Extends new t t') :
    KeepsDirectories t t' :=
  fun _ => h.node?_of_some

theorem keepsDirectories_put {l : Location} (h : t.node? l ≠ some .directory) (n : Node) :
    KeepsDirectories t (t.put l n) := by
  intro other hother
  rw [t.node?_put_of_ne ?_ n, hother]
  rintro rfl
  exact h hother

/-- Names that lead through directories lead on to what stands at their place. -/
theorem follow_of_kept (hkeep : KeepsDirectories t t') {l : Location} {n : Node}
    (hl : t'.node? l = t.node? l) : ∀ {names : List Text} {start : Location},
    t.follow start names = .ok (.node l n) → t'.follow start names = .ok (.node l n)
  | [], start, h => by
    obtain ⟨m, hm, he⟩ := follow_nil_eq_ok_iff.mp h
    cases he
    exact follow_nil_eq_ok_iff.mpr ⟨n, hl.trans hm, rfl⟩
  | name :: rest, start, h => by
    obtain ⟨hd, ⟨rfl, hup⟩ | ⟨hn, hlen, ⟨-, -, he⟩ | ⟨-, hdown⟩⟩⟩ := follow_cons_cases h
    · rw [follow_parent (hkeep start hd)]
      exact follow_of_kept hkeep hl hup
    · cases he
    · have hon := follow_of_kept hkeep hl hdown
      refine (follow_child (hkeep start hd) hn hlen ?_).trans hon
      cases rest with
      | nil =>
        obtain ⟨m, hm, -⟩ := follow_nil_eq_ok_iff.mp hon
        exact .inr (by rw [hm]; exact Option.some_ne_none m)
      | cons r rs => exact .inl (List.cons_ne_nil r rs)

/-- A file keeps its bytes where its place is left alone. -/
theorem bytesAt_of_kept (hwd : t'.workingDirectory = t.workingDirectory)
    (hkeep : KeepsDirectories t t')
    (hplace : t'.node? (placeFrom t.workingDirectory p) = t.node? (placeFrom t.workingDirectory p))
    {content : Bytes} (h : t.bytesAt p = .ok content) : t'.bytesAt p = .ok content := by
  obtain ⟨l, hl⟩ := bytesAt_eq_ok_iff.mp h
  have hlocation : l = placeFrom t.workingDirectory p := location_of_find hl
  obtain ⟨hp, hfollow, hdir⟩ := find_eq_ok_iff.mp hl
  refine bytesAt_eq_ok_iff.mpr ⟨l, find_eq_ok_iff.mpr ⟨hp, ?_, hdir⟩⟩
  have horigin : t'.origin p = t.origin p := by rw [origin, origin, hwd]
  rw [horigin]
  exact follow_of_kept hkeep (hlocation ▸ hplace) hfollow

/-! ### Missing files -/

/-- Nothing stands at the place of the path and no file on the way, which does not go through that
place; no name is too long. -/
structure Absent (t : FileTree) (p : Path) : Prop where
  admitted : Admitted p
  short : ∀ name ∈ Path.names p, Text.utf8Length name ≤ maxNameLength
  noFile : ∀ n < (Path.names p).length, ∀ content,
    t.node? (placeFrom t.workingDirectory (Path.firstNames p n)) ≠ some (.file content)
  free : t.node? (placeFrom t.workingDirectory p) = none
  apart : ∀ n < (Path.names p).length,
    placeFrom t.workingDirectory (Path.firstNames p n) ≠ placeFrom t.workingDirectory p

/-- Names with no file on the way lead nowhere, or to the free place that they name. -/
theorem follow_of_no_file : ∀ {names : List Text} {start : Location},
    (∀ name ∈ names, Text.utf8Length name ≤ maxNameLength) →
    (∀ n < names.length, ∀ content, t.node? (walk start (names.take n)) ≠ some (.file content)) →
    t.node? (walk start names) = none →
    t.follow start names = .error .notFound ∨
      t.follow start names = .ok (.free (walk start names))
  | [], start, _, _, hfree => .inl (follow_missing hfree [])
  | name :: rest, start, hshort, hfile, hfree => by
    have hrest : ∀ m ∈ rest, Text.utf8Length m ≤ maxNameLength :=
      fun m hm => hshort m (List.mem_cons_of_mem _ hm)
    have hon : ∀ n < rest.length, ∀ content, t.node? (walk
        (if name = ['.', '.'] then start.dropLast else start ++ [name]) (rest.take n)) ≠
          some (.file content) := fun n hn => hfile (n + 1) (Nat.succ_lt_succ hn)
    rw [walk] at hfree ⊢
    cases hd : t.node? start with
    | none => exact .inl (follow_missing hd _)
    | some node =>
      cases node with
      | file content => exact absurd hd (hfile 0 (Nat.succ_pos _) content)
      | directory =>
        by_cases hn : name = ['.', '.']
        · subst hn
          rw [if_pos rfl] at hon hfree ⊢
          rw [follow_parent hd]
          exact follow_of_no_file hrest hon hfree
        · rw [if_neg hn] at hon hfree ⊢
          have hlen := hshort name List.mem_cons_self
          by_cases hc : rest ≠ [] ∨ t.node? (start ++ [name]) ≠ none
          · rw [follow_child hd hn hlen hc]
            exact follow_of_no_file hrest hon hfree
          · rw [not_or, not_not, not_not] at hc
            obtain ⟨rfl, hnone⟩ := hc
            exact .inr (follow_last hd hn hlen hnone)

theorem Vacant.absent (h : Vacant t p) : Absent t p := by
  have hplain : ∀ name ∈ Path.names p, name ≠ ['.', '.'] := fun name hn => (h.plain name hn).1
  have hway : ∀ n, placeFrom t.workingDirectory (Path.firstNames p n) = t.above p n := by
    intro n
    rw [placeFrom_firstNames, walk_of_plain fun name hn => hplain name (List.mem_of_mem_take hn)]
    rfl
  have hplace : placeFrom t.workingDirectory p = t.above p (Path.names p).length := by
    rw [← placeFrom_firstNames_length, hway]
  refine ⟨h.admitted, fun name hn => (h.plain name hn).2, fun n hn => ?_, ?_, fun n hn => ?_⟩
  · rw [hway]
    exact h.noFile n hn
  · rw [hplace, above, List.take_length]
    exact h.free
  · rw [hway, hplace]
    exact above_ne hn (Nat.le_refl _)

namespace Absent

theorem bytesAt (h : Absent t p) : t.bytesAt p = .error .notFound := by
  have hway := h.noFile
  have hfree := h.free
  simp only [placeFrom_firstNames] at hway
  rcases follow_of_no_file h.short hway hfree with hmissing | hfollow
  · rw [FileTree.bytesAt, find_of_follow_error h.admitted hmissing]
  · rw [FileTree.bytesAt, find_of_follow_free h.admitted hfollow]

/-- It stays missing where directories are added elsewhere. -/
theorem of_extends {new : Location → Prop} (h : Absent t p) (he : Extends new t t')
    (hnew : ¬ new (placeFrom t.workingDirectory p)) : Absent t' p := by
  have hwd := he.workingDirectory
  refine ⟨h.admitted, h.short, fun n hn content hc => ?_, ?_, fun n hn => ?_⟩
  · rw [hwd] at hc
    rcases he.node? (placeFrom t.workingDirectory (Path.firstNames p n)) with hsame | ⟨-, -, hdir⟩
    · exact h.noFile n hn content (hsame.symm.trans hc)
    · rw [hdir] at hc
      cases hc
  · rw [hwd]
    rcases he.node? (placeFrom t.workingDirectory p) with hsame | ⟨hl, -, -⟩
    · exact hsame.trans h.free
    · exact absurd hl hnew
  · rw [hwd]
    exact h.apart n hn

/-- Creating the directories above it does not make it. -/
theorem createParents (h : Absent t p) : Absent (t.createParents p).1 p := by
  cases hlen : (Path.names p).length with
  | zero =>
    rw [createParents_eq, hlen]
    exact h
  | succ len =>
    refine h.of_extends (createParents_extends t p) ?_
    rintro ⟨n, hn, hplace⟩
    exact h.apart n (by omega) hplace.symm

/-- It stays missing where a file is put off the way. -/
theorem put (h : Absent t p) {l : Location} (hl : ¬ Along t.workingDirectory p (Path.names p).length l)
    (n : Node) : Absent (t.put l n) p := by
  have hoff : ∀ m ≤ (Path.names p).length,
      (t.put l n).node? (placeFrom t.workingDirectory (Path.firstNames p m)) =
        t.node? (placeFrom t.workingDirectory (Path.firstNames p m)) := fun m hm =>
    t.node?_put_of_ne (fun he => hl ⟨m, hm, he.symm⟩) n
  refine ⟨h.admitted, h.short, fun m hm => ?_, ?_, h.apart⟩
  · show ∀ content, (t.put l n).node? (placeFrom t.workingDirectory (Path.firstNames p m)) ≠ _
    rw [hoff m (Nat.le_of_lt hm)]
    exact h.noFile m hm
  · show (t.put l n).node? (placeFrom t.workingDirectory p) = none
    rw [← placeFrom_firstNames_length, hoff _ (Nat.le_refl _), placeFrom_firstNames_length]
    exact h.free

end Absent

end MangaPress.FileTree
