/-
# Making room for a file

Below a directory, a path of proper names at which nothing stands and above which no file stands is
vacant. The directories above a vacant path can be created, however many are missing, and then a
file can be written to it.

Key definition: `FileTree.Vacant`.
Key theorems: `FileTree.follow_plain`, `FileTree.createDirectoriesTo_of_plain`,
`FileTree.isDirectory_of_createDirectoriesTo`, `FileTree.directoryNames_of_follow`,
`FileTree.Vacant.opensAt`.
-/
import MangaPress.Proofs.Files.Tree

namespace MangaPress.FileTree

variable {t : FileTree}

/-! ### Proper names -/

/-- Names of files and directories, none of them that of a parent or too long. -/
def Plain (names : List Text) : Prop :=
  ∀ name ∈ names, name ≠ ['.', '.'] ∧ Text.utf8Length name ≤ maxNameLength

theorem follow_missing {start : Location} (h : t.node? start = none) (names : List Text) :
    t.follow start names = .error .notFound := by
  cases names <;> rw [follow, h]

/-- Where proper names lead among directories. -/
def foundAt (t : FileTree) (location : Location) : Found :=
  match t.node? location with
  | none => .free location
  | some n => .node location n

theorem follow_singleton {start : Location} {name : Text} (hd : t.node? start = some .directory)
    (hn : name ≠ ['.', '.']) (hl : Text.utf8Length name ≤ maxNameLength) :
    t.follow start [name] = .ok (t.foundAt (start ++ [name])) := by
  unfold foundAt
  cases hc : t.node? (start ++ [name]) with
  | none => exact follow_last hd hn hl hc
  | some n =>
    rw [follow_child hd hn hl (.inr (by rw [hc]; exact Option.some_ne_none n))]
    exact follow_nil_eq_ok_iff.mpr ⟨n, hc, rfl⟩

/-- Proper names, with no file on the way, lead nowhere because a directory is missing, or else all
the way. -/
theorem follow_plain : ∀ {names : List Text} {start : Location}, Plain names →
    t.node? start = some .directory →
    (∀ n, n < names.length → ∀ content, t.node? (start ++ names.take n) ≠ some (.file content)) →
    t.follow start names = .error .notFound ∧
        (∃ n, n < names.length ∧ t.node? (start ++ names.take n) = none) ∨
      t.follow start names = .ok (t.foundAt (start ++ names)) ∧
        ∀ n, n < names.length → t.node? (start ++ names.take n) = some .directory
  | [], start, _, hd, _ => by
    refine .inr ⟨?_, fun n hn => absurd hn (Nat.not_lt_zero n)⟩
    rw [List.append_nil, foundAt, hd]
    exact follow_nil_eq_ok_iff.mpr ⟨_, hd, rfl⟩
  | name :: rest, start, hp, hd, hfile => by
    obtain ⟨hn, hl⟩ := hp name List.mem_cons_self
    have hstart : start ++ List.take 0 (name :: rest) = start := List.append_nil start
    have hchild : ∀ n, start ++ List.take (n + 1) (name :: rest) =
        start ++ [name] ++ rest.take n := fun n => by simp
    by_cases hrest : rest = []
    · subst hrest
      refine .inr ⟨follow_singleton hd hn hl, fun n hlt => ?_⟩
      rw [Nat.lt_one_iff.mp hlt, hstart]
      exact hd
    · have hone : 1 < (name :: rest).length :=
        Nat.lt_add_of_pos_left (List.length_pos_iff.mpr hrest)
      rw [follow_child hd hn hl (.inl hrest)]
      cases hc : t.node? (start ++ [name]) with
      | none => exact .inl ⟨follow_missing hc rest, 1, hone, hc⟩
      | some n =>
        cases n with
        | file content =>
          exact absurd hc (hfile 1 hone content)
        | directory =>
          have hfile' : ∀ n, n < rest.length → ∀ content,
              t.node? (start ++ [name] ++ rest.take n) ≠ some (.file content) := by
            intro n hlt content
            rw [← hchild]
            exact hfile (n + 1) (Nat.succ_lt_succ hlt) content
          rcases follow_plain (fun m hm => hp m (List.mem_cons_of_mem _ hm)) hc hfile' with
            ⟨hmissing, n, hlt, hnone⟩ | ⟨hfollow, hdirs⟩
          · exact .inl ⟨hmissing, n + 1, Nat.succ_lt_succ hlt, by rw [hchild]; exact hnone⟩
          · refine .inr ⟨?_, fun n hlt => ?_⟩
            · rw [hfollow, List.append_assoc]
              rfl
            · cases n with
              | zero => rw [hstart, hd]
              | succ n =>
                rw [hchild]
                exact hdirs n (Nat.lt_of_succ_lt_succ hlt)

/-! ### Creating directories -/

/-- Where the first `n` names of a path lead. -/
def above (t : FileTree) (p : Path) (n : Nat) : Location :=
  t.origin p ++ (Path.names p).take n

theorem above_ne {p : Path} {m n : Nat} (hm : m < n) (hn : n ≤ (Path.names p).length) :
    t.above p m ≠ t.above p n := by
  intro h
  have hl := congrArg List.length (List.append_cancel_left h)
  rw [List.length_take, List.length_take] at hl
  omega

theorem find_of_follow_error {p : Path} {e : FileError} (hp : Admitted p)
    (h : t.follow (t.origin p) (Path.names p) = .error e) : t.find p = .error e := by
  unfold origin at h
  unfold find
  rw [if_neg (by simpa using hp.noNul), if_neg (by simpa using hp.ne_nil),
    if_neg (Nat.not_lt.mpr hp.length_le), h]

theorem find_of_follow_free {p : Path} {l : Location} (hp : Admitted p)
    (h : t.follow (t.origin p) (Path.names p) = .ok (.free l)) : t.find p = .ok (.free l) := by
  refine find_eq_ok_iff.mpr ⟨hp, h, ?_⟩
  intro l' content he
  cases he

theorem find_of_follow_directory {p : Path} {l : Location} (hp : Admitted p)
    (h : t.follow (t.origin p) (Path.names p) = .ok (.node l .directory)) :
    t.find p = .ok (.node l .directory) := by
  refine find_eq_ok_iff.mpr ⟨hp, h, ?_⟩
  intro l' content he
  cases he

/-- A tree in which the first `n` names of a path lead to directories, and which is otherwise the
one that it was made from. -/
structure Opened (t t' : FileTree) (p : Path) (n : Nat) : Prop where
  workingDirectory : t'.workingDirectory = t.workingDirectory
  directory : ∀ m ≤ n, t'.node? (t.above p m) = some .directory
  frame : ∀ l, (∀ m ≤ n, l ≠ t.above p m) → t'.node? l = t.node? l

variable {t' : FileTree} {p : Path} {n : Nat}

theorem Opened.origin (h : Opened t t' p n) (q : Path) : t'.origin q = t.origin q := by
  unfold FileTree.origin
  rw [h.workingDirectory]

/-- In a tree that is open so far, the next name leads to a free place or to a directory. -/
theorem Opened.follow (h : Opened t t' p n) (hplain : Plain (Path.names p))
    (hn : n < (Path.names p).length) :
    t'.follow (t'.origin p) ((Path.names p).take (n + 1)) =
      .ok (t'.foundAt (t.above p (n + 1))) ∧
    t'.node? (t.above p (n + 1)) = t.node? (t.above p (n + 1)) := by
  have hlen : ((Path.names p).take (n + 1)).length = n + 1 := by
    rw [List.length_take]
    omega
  have htake : ∀ m, m < n + 1 →
      t'.node? (t.origin p ++ ((Path.names p).take (n + 1)).take m) = some .directory := by
    intro m hm
    rw [List.take_take, Nat.min_eq_left (Nat.le_of_lt hm)]
    exact h.directory m (Nat.le_of_lt_succ hm)
  have hstart : t'.node? (t.origin p) = some .directory := by
    have h0 := h.directory 0 (Nat.zero_le n)
    rwa [above, List.take_zero, List.append_nil] at h0
  rw [h.origin]
  constructor
  · rcases follow_plain (fun m hm => hplain m (List.mem_of_mem_take hm)) hstart (fun m hm c => by
        rw [hlen] at hm
        rw [htake m hm]
        simp) with ⟨-, m, hm, hnone⟩ | ⟨hfollow, -⟩
    · rw [hlen] at hm
      rw [htake m hm] at hnone
      cases hnone
    · exact hfollow
  · exact h.frame _ fun m hm he => above_ne (Nat.lt_succ_of_le hm) hn he.symm

theorem take_ne_nil (hn : n < (Path.names p).length) : (Path.names p).take (n + 1) ≠ [] := by
  rw [Ne, List.take_eq_nil_iff, ← List.length_eq_zero_iff]
  omega

theorem follow_firstNames (t : FileTree) (p : Path) (n : Nat) :
    t.follow (t.origin (Path.firstNames p n)) (Path.names (Path.firstNames p n)) =
      t.follow (t.origin p) ((Path.names p).take n) := by
  rw [origin_firstNames, Path.names_firstNames]

theorem above_ne_nil (t : FileTree) (hn : n < (Path.names p).length) : t.above p (n + 1) ≠ [] :=
  fun h => take_ne_nil hn (List.append_eq_nil_iff.mp h).2

/-- Where the next name is that of a directory, the tree is open one name further. -/
theorem Opened.next (h : Opened t t' p n)
    (hd : t'.node? (t.above p (n + 1)) = some .directory) : Opened t t' p (n + 1) := by
  refine ⟨h.workingDirectory, fun m hm => ?_, fun l hl => ?_⟩
  · rcases Nat.lt_or_eq_of_le hm with hlt | rfl
    · exact h.directory m (Nat.le_of_lt_succ hlt)
    · exact hd
  · exact h.frame l fun m hm => hl m (Nat.le_succ_of_le hm)

/-- A directory put at the next name opens the tree one name further. -/
theorem Opened.put (h : Opened t t' p n) (hn : n < (Path.names p).length) :
    Opened t (t'.put (t.above p (n + 1)) .directory) p (n + 1) := by
  refine ⟨h.workingDirectory, fun m hm => ?_, fun l hl => ?_⟩
  · rcases Nat.lt_or_eq_of_le hm with hlt | rfl
    · rw [node?_put_of_ne _ (above_ne hlt hn)]
      exact h.directory m (Nat.le_of_lt_succ hlt)
    · exact node?_put_self _ (above_ne_nil t hn) _
  · rw [node?_put_of_ne _ (hl _ (Nat.le_refl _))]
    exact h.frame l fun m hm => hl m (Nat.le_succ_of_le hm)

/-- In a tree that is open so far, the next directory can be created or is there. -/
theorem Opened.createDirectory (h : Opened t t' p n) (hp : Admitted p)
    (hplain : Plain (Path.names p)) (hn : n < (Path.names p).length)
    (hfile : ∀ content, t.node? (t.above p (n + 1)) ≠ some (.file content)) :
    t'.createDirectory (Path.firstNames p (n + 1)) =
        .ok (t'.put (t.above p (n + 1)) .directory) ∧
      Opened t (t'.put (t.above p (n + 1)) .directory) p (n + 1) ∨
    t'.createDirectory (Path.firstNames p (n + 1)) = .error .exists ∧
      t'.isDirectory (Path.firstNames p (n + 1)) = true ∧ Opened t t' p (n + 1) := by
  obtain ⟨hfollow, hsame⟩ := h.follow hplain hn
  have hadmitted := hp.firstNames (take_ne_nil hn)
  rw [← follow_firstNames, foundAt] at hfollow
  cases hc : t'.node? (t.above p (n + 1)) with
  | none =>
    rw [hc] at hfollow
    have hfind := find_of_follow_free hadmitted hfollow
    exact .inl ⟨by rw [FileTree.createDirectory, hfind], h.put hn⟩
  | some node =>
    cases node with
    | file content =>
      rw [hsame] at hc
      exact absurd hc (hfile content)
    | directory =>
      rw [hc] at hfollow
      have hfind := find_of_follow_directory hadmitted hfollow
      exact .inr ⟨by rw [FileTree.createDirectory, hfind],
        isDirectory_eq_true_iff.mpr ⟨_, hfind⟩, h.next hc⟩

/-- The directories of proper names can be created where no file is in the way. -/
theorem createDirectoriesTo_of_plain (hp : Admitted p) (hplain : Plain (Path.names p))
    (hstart : t.node? (t.origin p) = some .directory) : ∀ {n : Nat}, n ≤ (Path.names p).length →
    (∀ m ≤ n, ∀ content, t.node? (t.above p m) ≠ some (.file content)) →
    ∃ t', t.createDirectoriesTo p n = (t', .ok ()) ∧ Opened t t' p n
  | 0, _, _ => by
    refine ⟨t, rfl, rfl, fun m hm => ?_, fun _ _ => rfl⟩
    rw [Nat.le_zero.mp hm, above, List.take_zero, List.append_nil]
    exact hstart
  | n + 1, hn, hfile => by
    have hlt : n < (Path.names p).length := hn
    have hlast := hfile (n + 1) (Nat.le_refl _)
    have hlen : ((Path.names p).take (n + 1)).length = n + 1 := by
      rw [List.length_take]
      omega
    have habove : ∀ m, m < n + 1 →
        t.origin p ++ ((Path.names p).take (n + 1)).take m = t.above p m := by
      intro m hm
      rw [List.take_take, Nat.min_eq_left (Nat.le_of_lt hm)]
      rfl
    rw [createDirectoriesTo]
    rcases follow_plain (fun m hm => hplain m (List.mem_of_mem_take hm)) hstart (fun m hm c => by
        rw [hlen] at hm
        rw [habove m hm]
        exact hfile m (Nat.le_of_lt hm) c) with ⟨hmissing, -⟩ | ⟨-, hdirs⟩
    · -- A directory above is missing: the shorter path is created first.
      rw [← follow_firstNames] at hmissing
      have hcreate : t.createDirectory (Path.firstNames p (n + 1)) = .error .notFound := by
        rw [createDirectory, find_of_follow_error (hp.firstNames (take_ne_nil hlt)) hmissing]
      obtain ⟨t', hrec, hopen⟩ := createDirectoriesTo_of_plain hp hplain hstart
        (Nat.le_of_succ_le hn) fun m hm => hfile m (Nat.le_succ_of_le hm)
      rw [hcreate]
      dsimp only
      rw [hrec]
      dsimp only
      rcases hopen.createDirectory hp hplain hlt hlast with ⟨hc, hnext⟩ | ⟨hc, hd, hnext⟩
      · rw [hc]
        exact ⟨_, rfl, hnext⟩
      · rw [hc]
        dsimp only
        rw [hd, if_pos rfl]
        exact ⟨_, rfl, hnext⟩
    · have hopen : Opened t t p n := by
        refine ⟨rfl, fun m hm => ?_, fun _ _ => rfl⟩
        have hd := hdirs m (by rw [hlen]; exact Nat.lt_succ_of_le hm)
        rwa [habove m (Nat.lt_succ_of_le hm)] at hd
      rcases hopen.createDirectory hp hplain hlt hlast with ⟨hc, hnext⟩ | ⟨hc, hd, hnext⟩
      · rw [hc]
        exact ⟨_, rfl, hnext⟩
      · rw [hc]
        dsimp only
        rw [hd, if_pos rfl]
        exact ⟨_, rfl, hnext⟩

/-- A directory that was created is there. -/
theorem isDirectory_of_createDirectory (h : t.createDirectory p = .ok t') :
    t'.isDirectory p = true := by
  unfold createDirectory at h
  cases hf : t.find p with
  | error e =>
    rw [hf] at h
    cases h
  | ok found =>
    rw [hf] at h
    cases found with
    | node l m => cases h
    | free l =>
      cases h
      obtain ⟨hp, hfollow, -⟩ := find_eq_ok_iff.mp hf
      have hfree : t.node? (Found.free l).location ≠ some .directory := by
        show t.node? l ≠ _
        rw [node?_of_follow_free hfollow]
        simp
      have hput := follow_put .directory hfree hfollow
      exact isDirectory_eq_true_iff.mpr ⟨l, find_of_follow_directory hp hput⟩

/-- Directories that were created are there. -/
theorem isDirectory_of_createDirectoriesTo {t t' : FileTree} {p : Path} {n : Nat}
    (h : t.createDirectoriesTo p (n + 1) = (t', .ok ())) :
    t'.isDirectory (Path.firstNames p (n + 1)) = true := by
  have hself : ∀ (u : FileTree) e, (u, if u.isDirectory (Path.firstNames p (n + 1)) then
      Except.ok () else .error e) = (t', (.ok () : Except FileError Unit)) →
      t'.isDirectory (Path.firstNames p (n + 1)) = true := by
    intro u e hu
    by_cases hd : u.isDirectory (Path.firstNames p (n + 1)) = true
    · rw [← (Prod.mk.inj hu).1]
      exact hd
    · rw [if_neg hd] at hu
      cases hu
  rw [createDirectoriesTo] at h
  split at h
  · rename_i u hu
    cases h
    exact isDirectory_of_createDirectory hu
  · split at h
    · cases h
    · split at h
      · rename_i u hu
        cases h
        exact isDirectory_of_createDirectory hu
      · exact hself _ _ h
  · exact hself _ _ h

/-- The names of a directory can be listed, unless its path cannot be looked up at all. -/
theorem directoryNames_of_follow {l : Location} (hp : p ≠ [])
    (h : t.follow (t.origin p) (Path.names p) = .ok (.node l .directory)) :
    t.directoryNames p = .ok (t.directoryNamesAt l) ∨
      t.directoryNames p = .error .nulInName ∨ t.directoryNames p = .error .nameTooLong := by
  by_cases hnul : '\x00' ∈ p
  · exact .inr (.inl (by simp [directoryNames, find, hnul]))
  · by_cases hlen : Text.utf8Length p ≤ maxPathLength
    · have hfind := find_of_follow_directory ⟨hnul, hp, hlen⟩ h
      exact .inl (by rw [directoryNames, hfind])
    · have hlong : maxPathLength < Text.utf8Length p := by omega
      exact .inr (.inr (by simp [directoryNames, find, hnul, hp, hlong]))

theorem mem_directoryNamesAt {l : Location} {name : Text}
    (h : t.node? (l ++ [name]) = some .directory) : name ∈ t.directoryNamesAt l := by
  have hlookup : t.entries.lookup (l ++ [name]) = some .directory := by
    simpa [node?] using h
  obtain ⟨before, after, hentries, -⟩ := List.lookup_eq_some_iff.mp hlookup
  rw [directoryNamesAt, List.mem_filterMap]
  refine ⟨(l ++ [name], .directory), ?_, by simp⟩
  rw [hentries]
  exact List.mem_append_right _ List.mem_cons_self

/-! ### Vacant paths -/

/-- Nothing stands at the path, and no file above it; every name may be that of a file. -/
structure Vacant (t : FileTree) (p : Path) : Prop where
  admitted : Admitted p
  plain : Plain (Path.names p)
  named : Path.names p ≠ []
  asFile : Path.demandsDirectory p = false
  origin : t.node? (t.origin p) = some .directory
  noFile : ∀ n < (Path.names p).length, ∀ content, t.node? (t.above p n) ≠ some (.file content)
  free : t.node? (t.origin p ++ Path.names p) = none

/-- A vacant path can be opened as a file once the directories above it are created, and they can
be. -/
theorem Vacant.opensAt (h : Vacant t p) : ∃ t', t.createParents p = (t', .ok ()) ∧
    ∃ l, t'.OpensAt p l := by
  obtain ⟨n, hn⟩ := Nat.exists_eq_add_of_lt (List.length_pos_iff.mpr h.named)
  rw [Nat.zero_add] at hn
  obtain ⟨t', hcreate, hopen⟩ := createDirectoriesTo_of_plain h.admitted h.plain h.origin
    (n := n) (by omega) fun m hm => h.noFile m (by omega)
  obtain ⟨hfollow, hsame⟩ := hopen.follow h.plain (by omega)
  have hall : (Path.names p).take (n + 1) = Path.names p := List.take_of_length_le (by omega)
  rw [foundAt, hsame, above, hall, h.free] at hfollow
  have hfind := find_of_follow_free h.admitted hfollow
  refine ⟨t', ?_, _, .free hfind h.asFile⟩
  rw [createParents_eq, hn, Nat.add_sub_cancel, hcreate]

theorem Vacant.bytesAt (h : Vacant t p) : t.bytesAt p = .error .notFound := by
  have hfile : ∀ n, n < (Path.names p).length → ∀ content,
      t.node? (t.origin p ++ (Path.names p).take n) ≠ some (.file content) := h.noFile
  unfold FileTree.bytesAt
  rcases follow_plain h.plain h.origin hfile with ⟨hmissing, -⟩ | ⟨hfollow, -⟩
  · rw [find_of_follow_error h.admitted hmissing]
  · rw [foundAt, h.free] at hfollow
    rw [find_of_follow_free h.admitted hfollow]

end MangaPress.FileTree
