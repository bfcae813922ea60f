/-
# Directories below one that was created

Once the directories of a path could be created, those of a path with more names are created one
name after the other from there, whatever the names before them are; parents may be among these. So
to create the directories of the longer path is to create those of the shorter one first.

Nothing that was there is lost, and a directory is put at most once at each location, so that the
names that are listed for a directory are those of the directories in it.

Key definitions: `FileTree.withDirectory`, `FileTree.openTo`, `FileTree.Below`, `FileTree.Listed`.
Key theorems: `FileTree.createDirectoriesTo_cases`, `FileTree.Below.along`,
`FileTree.createDirectories_below`, `FileTree.createDirectories_of_file`, `FileTree.openTo_extends`,
`FileTree.mem_directoryNamesAt_iff`.
-/
import MangaPress.Proofs.Files.Frame

namespace MangaPress.FileTree

variable {t t₁ : FileTree} {p root : Path} {n : Nat} {start l base : Location} {ms ns : List Text}
  {name : Text}

/-! ### More names -/

/-- Names lead on from the directory that the names before them lead to. -/
theorem follow_append (hms : ms ≠ []) : ∀ {names : List Text} {start : Location},
    t.follow start names = .ok (.node l .directory) →
      t.follow start (names ++ ms) = t.follow l ms
  | [], start, h => by
    obtain ⟨n, -, he⟩ := follow_nil_eq_ok_iff.mp h
    cases he
    rfl
  | name :: rest, start, h => by
    have hne : rest ++ ms ≠ [] := List.append_ne_nil_of_right_ne_nil rest hms
    rw [List.cons_append]
    obtain ⟨hd, ⟨rfl, hup⟩ | ⟨hn, hlen, ⟨-, -, he⟩ | ⟨-, hdown⟩⟩⟩ := follow_cons_cases h
    · rw [follow_parent hd]
      exact follow_append hms hup
    · cases he
    · rw [follow_child hd hn hlen (.inl hne)]
      exact follow_append hms hdown

/-- Names that lead to a free place lead nowhere with more names. -/
theorem follow_append_of_free (hms : ms ≠ []) : ∀ {names : List Text} {start : Location},
    t.follow start names = .ok (.free l) → t.follow start (names ++ ms) = .error .notFound
  | [], start, h => by
    obtain ⟨n, -, he⟩ := follow_nil_eq_ok_iff.mp h
    cases he
  | name :: rest, start, h => by
    have hne : rest ++ ms ≠ [] := List.append_ne_nil_of_right_ne_nil rest hms
    rw [List.cons_append]
    obtain ⟨hd, ⟨rfl, hup⟩ | ⟨hn, hlen, ⟨rfl, hfree, -⟩ | ⟨-, hdown⟩⟩⟩ := follow_cons_cases h
    · rw [follow_parent hd]
      exact follow_append_of_free hms hup
    · rw [follow_child hd hn hlen (.inl hne)]
      exact follow_missing hfree _
    · rw [follow_child hd hn hlen (.inl hne)]
      exact follow_append_of_free hms hdown

/-- Names that lead nowhere lead nowhere with more names, for the same reason. -/
theorem follow_append_of_error {e : FileError} : ∀ {names : List Text} {start : Location},
    t.follow start names = .error e → t.follow start (names ++ ms) = .error e
  | [], start, h => by
    cases hs : t.node? start with
    | none =>
      rw [follow_missing hs] at h
      rw [List.nil_append, follow_missing hs, h]
    | some n =>
      rw [follow, hs] at h
      cases h
  | name :: rest, start, h => by
    cases hs : t.node? start with
    | none =>
      rw [follow_missing hs] at h
      rw [follow_missing hs, h]
    | some n =>
      cases n with
      | file content =>
        rw [follow, hs] at h
        rw [List.cons_append, follow, hs]
        exact h
      | directory =>
        rw [follow_cons hs] at h
        rw [List.cons_append, follow_cons hs]
        by_cases hup : name = ['.', '.']
        · rw [if_pos hup] at h ⊢
          exact follow_append_of_error h
        · rw [if_neg hup] at h ⊢
          by_cases hlong : maxNameLength < Text.utf8Length name
          · rw [if_pos hlong] at h ⊢
            exact h
          · rw [if_neg hlong] at h ⊢
            by_cases hfree : (rest.isEmpty && (t.node? (start ++ [name])).isNone) = true
            · rw [if_pos hfree] at h
              cases h
            · have hon : ¬ ((rest ++ ms).isEmpty && (t.node? (start ++ [name])).isNone) = true := by
                intro hstop
                apply hfree
                rw [Bool.and_eq_true, List.isEmpty_iff] at hstop ⊢
                exact ⟨(List.append_eq_nil_iff.mp hstop.1).1, hstop.2⟩
              rw [if_neg hfree] at h
              rw [if_neg hon]
              exact follow_append_of_error h

/-! ### Where directories were created -/

theorem find_of_follow_file {content : Bytes} (hp : Admitted p)
    (h : t.follow (t.origin p) (Path.names p) = .ok (.node l (.file content))) :
    t.find p = if Path.demandsDirectory p then .error .notDirectory
      else .ok (.node l (.file content)) := by
  unfold origin at h
  unfold find
  rw [if_neg (by simpa using hp.noNul), if_neg (by simpa using hp.ne_nil),
    if_neg (Nat.not_lt.mpr hp.length_le), h]

/-- Where the directories of one more name could be created, this name was that of a directory, or
free, or below a missing directory. -/
theorem follow_of_createDirectoriesTo_succ (hp : Admitted p) (hn : n < (Path.names p).length)
    (h : t.createDirectoriesTo p (n + 1) = (t₁, .ok ())) :
    (∃ l, t.follow (t.origin p) ((Path.names p).take (n + 1)) = .ok (.node l .directory)) ∨
    (∃ l, t.follow (t.origin p) ((Path.names p).take (n + 1)) = .ok (.free l)) ∨
    t.follow (t.origin p) ((Path.names p).take (n + 1)) = .error .notFound := by
  have hadmitted := hp.firstNames (take_ne_nil hn)
  -- An error of another kind is passed on.
  have hstop : ∀ e, t.find (Path.firstNames p (n + 1)) = .error e → e = .notFound := by
    intro e he
    have hcreate : t.createDirectory (Path.firstNames p (n + 1)) = .error e := by
      rw [createDirectory, he]
    have hnot : t.isDirectory (Path.firstNames p (n + 1)) = false := by
      rw [isDirectory, he]
    rw [createDirectoriesTo, hcreate] at h
    cases e with
    | notFound => rfl
    | _ => simp [hnot] at h
  have hnoFile : ∀ l content,
      t.find (Path.firstNames p (n + 1)) ≠ .ok (.node l (.file content)) := by
    intro l content he
    rw [createDirectoriesTo, createDirectory, he] at h
    simp [isDirectory, he] at h
  rw [← follow_firstNames]
  cases hf : t.follow (t.origin (Path.firstNames p (n + 1)))
      (Path.names (Path.firstNames p (n + 1))) with
  | error e => exact .inr (.inr (congrArg _ (hstop e (find_of_follow_error hadmitted hf))))
  | ok found =>
    cases found with
    | free l => exact .inr (.inl ⟨l, rfl⟩)
    | node l m =>
      cases m with
      | directory => exact .inl ⟨l, rfl⟩
      | file content =>
        have hfind := find_of_follow_file hadmitted hf
        split at hfind
        · cases hstop _ hfind
        · exact absurd hfind (hnoFile l content)

/-- **Where directories could be created, the path led to one already, or more names lead nowhere
because a directory is missing.** -/
theorem createDirectoriesTo_cases (hp : Admitted p) (hn : n ≤ (Path.names p).length)
    (h : t.createDirectoriesTo p n = (t₁, .ok ())) :
    t₁ = t ∨ ∀ ms, ms ≠ [] →
      t.follow (t.origin p) ((Path.names p).take n ++ ms) = .error .notFound := by
  cases n with
  | zero =>
    cases h
    exact .inl rfl
  | succ n =>
    rcases follow_of_createDirectoriesTo_succ hp hn h with ⟨l, hl⟩ | ⟨l, hl⟩ | hl
    · left
      have hadmitted := hp.firstNames (take_ne_nil hn)
      rw [← follow_firstNames] at hl
      have hthere : t.isDirectory (Path.firstNames p (n + 1)) = true :=
        isDirectory_eq_true_iff.mpr ⟨l, find_of_follow_directory hadmitted hl⟩
      rw [createDirectoriesTo_of_isDirectory fun _ => hthere] at h
      exact (Prod.mk.inj h).1.symm
    · exact .inr fun ms hms => follow_append_of_free hms hl
    · exact .inr fun ms _ => follow_append_of_error hl

/-! ### One name further -/

/-- The tree with a directory at the location. -/
def withDirectory (t : FileTree) (l : Location) : FileTree :=
  if t.node? l = some .directory then t else t.put l .directory

@[simp]
theorem workingDirectory_withDirectory (t : FileTree) (l : Location) :
    (t.withDirectory l).workingDirectory = t.workingDirectory := by
  unfold withDirectory
  split <;> rfl

theorem node?_withDirectory_self (t : FileTree) (l : Location) :
    (t.withDirectory l).node? l = some .directory := by
  unfold withDirectory
  split
  · assumption
  · rename_i hnot
    refine t.node?_put_self ?_ _
    rintro rfl
    exact hnot t.node?_nil

/-- Where no file is, a directory is added at most. -/
theorem withDirectory_extends (hfile : ∀ content, t.node? l ≠ some (.file content)) :
    Extends (· = l) t (t.withDirectory l) := by
  refine ⟨t.workingDirectory_withDirectory l, fun other => ?_⟩
  by_cases ho : other = l
  · subst ho
    have hself := t.node?_withDirectory_self other
    cases hn : t.node? other with
    | none => exact .inr ⟨rfl, rfl, hself⟩
    | some n =>
      cases n with
      | file content => exact absurd hn (hfile content)
      | directory => exact .inl hself
  · left
    unfold withDirectory
    split
    · rfl
    · exact t.node?_put_of_ne ho _

theorem keepsDirectories_withDirectory (t : FileTree) (l : Location) :
    KeepsDirectories t (t.withDirectory l) := by
  unfold withDirectory
  split
  · exact fun _ h => h
  · rename_i hnot
    exact keepsDirectories_put hnot _

theorem follow_withDirectory {names : List Text}
    (h : t.follow start names = .ok (.node l .directory))
    (hname : name ≠ ['.', '.'] ∧ Text.utf8Length name ≤ maxNameLength) :
    (t.withDirectory (l ++ [name])).follow start (names ++ [name]) =
      .ok (.node (l ++ [name]) .directory) := by
  have hkeep := t.keepsDirectories_withDirectory (l ++ [name])
  have hdir := node?_of_follow h
  have hfollow := follow_of_kept hkeep ((hkeep l hdir).trans hdir.symm) h
  rw [follow_append (List.cons_ne_nil _ _) hfollow,
    follow_singleton (hkeep l hdir) hname.1 hname.2, foundAt, node?_withDirectory_self]

/-- From the directory that was created last, the next name is created. -/
theorem createDirectoriesTo_succ (hp : Admitted p)
    (htake : (Path.names p).take (n + 1) = (Path.names p).take n ++ [name])
    (hn : n < (Path.names p).length)
    (hname : name ≠ ['.', '.'] ∧ Text.utf8Length name ≤ maxNameLength)
    (h : t.createDirectoriesTo p n = (t₁, .ok ()))
    (hl : t₁.follow (t₁.origin p) ((Path.names p).take n) = .ok (.node l .directory))
    (hfile : ∀ content, t₁.node? (l ++ [name]) ≠ some (.file content)) :
    t.createDirectoriesTo p (n + 1) = (t₁.withDirectory (l ++ [name]), .ok ()) := by
  have hadmitted := hp.firstNames (take_ne_nil hn)
  have hfollow : t₁.follow (t₁.origin (Path.firstNames p (n + 1)))
      (Path.names (Path.firstNames p (n + 1))) = .ok (t₁.foundAt (l ++ [name])) := by
    rw [follow_firstNames, htake, follow_append (List.cons_ne_nil _ _) hl]
    exact follow_singleton (node?_of_follow hl) hname.1 hname.2
  -- The name is free, and the directory is put there, or it is that of a directory.
  have hlast : t₁.createDirectory (Path.firstNames p (n + 1)) =
        .ok (t₁.withDirectory (l ++ [name])) ∨
      t₁.createDirectory (Path.firstNames p (n + 1)) = .error .exists ∧
        t₁.isDirectory (Path.firstNames p (n + 1)) = true ∧
        t₁.withDirectory (l ++ [name]) = t₁ := by
    rw [foundAt] at hfollow
    cases hc : t₁.node? (l ++ [name]) with
    | none =>
      rw [hc] at hfollow
      left
      rw [createDirectory, find_of_follow_free hadmitted hfollow, withDirectory, hc,
        if_neg (by simp)]
    | some m =>
      cases m with
      | file content => exact absurd hc (hfile content)
      | directory =>
        rw [hc] at hfollow
        have hfind := find_of_follow_directory hadmitted hfollow
        exact .inr ⟨by rw [createDirectory, hfind], isDirectory_eq_true_iff.mpr ⟨_, hfind⟩,
          if_pos hc⟩
  rw [createDirectoriesTo]
  rcases createDirectoriesTo_cases hp (Nat.le_of_lt hn) h with rfl | hmissing
  · rcases hlast with hc | ⟨hc, hd, hsame⟩
    · rw [hc]
    · rw [hc]
      dsimp only
      rw [hd, if_pos rfl, hsame]
  · have hcreate : t.createDirectory (Path.firstNames p (n + 1)) = .error .notFound := by
      have herror := hmissing [name] (List.cons_ne_nil _ _)
      rw [← htake, ← follow_firstNames] at herror
      rw [createDirectory, find_of_follow_error hadmitted herror]
    rw [hcreate]
    dsimp only
    rw [h]
    dsimp only
    rcases hlast with hc | ⟨hc, hd, hsame⟩
    · rw [hc]
    · rw [hc]
      dsimp only
      rw [hd, if_pos rfl, hsame]

/-! ### All names further -/

/-- The path is the root with these names below it. -/
structure Below (root p : Path) (ns : List Text) : Prop where
  absolute : Path.isAbsolute p = Path.isAbsolute root
  names : Path.names p = Path.names root ++ ns

namespace Below

theorem refl (root : Path) : Below root root [] :=
  ⟨rfl, (List.append_nil _).symm⟩

theorem origin (h : Below root p ns) (t : FileTree) : t.origin p = t.origin root := by
  rw [FileTree.origin, FileTree.origin, h.absolute]

theorem firstNames (h : Below root p ns) {m : Nat} (hm : m ≤ (Path.names root).length) :
    Path.firstNames p m = Path.firstNames root m := by
  rw [Path.firstNames, Path.firstNames, h.absolute, h.names, List.take_append_of_le_length hm]

theorem placeFrom (h : Below root p ns) (hns : ∀ name ∈ ns, name ≠ ['.', '.']) (wd : Location) :
    placeFrom wd p = FileTree.placeFrom wd root ++ ns := by
  have hwalk : ∀ (names : List Text) (start : Location),
      walk start (names ++ ns) = walk start names ++ ns := by
    intro names
    induction names with
    | nil => exact walk_of_plain hns
    | cons name rest ih => exact fun start => ih _
  rw [FileTree.placeFrom, FileTree.placeFrom, h.absolute, h.names, hwalk]

/-- A place on the way to the path is on the way to the root, or below it. -/
theorem along (h : Below root p ns) (hns : ∀ name ∈ ns, name ≠ ['.', '.']) {wd : Location}
    (hl : Along wd p (Path.names p).length l) :
    Along wd root (Path.names root).length l ∨
      ∃ m, 0 < m ∧ m ≤ ns.length ∧ l = FileTree.placeFrom wd root ++ ns.take m := by
  obtain ⟨m, hm, rfl⟩ := hl
  rcases Nat.lt_or_ge (Path.names root).length m with hlt | hle
  · obtain ⟨k, rfl⟩ := Nat.exists_eq_add_of_lt hlt
    rw [h.names, List.length_append] at hm
    have hfirst : Below root (Path.firstNames p ((Path.names root).length + k + 1))
        (ns.take (k + 1)) := by
      refine ⟨(Path.isAbsolute_firstNames p _).trans h.absolute, ?_⟩
      rw [Path.names_firstNames, h.names, Nat.add_assoc, List.take_length_add_append]
    exact .inr ⟨k + 1, Nat.succ_pos k, by omega,
      hfirst.placeFrom (fun name hname => hns name (List.mem_of_mem_take hname)) wd⟩
  · exact .inl ⟨m, hle, by rw [h.firstNames hle]⟩

end Below

theorem Extends.not_file {new : Location → Prop} {t' : FileTree} (h : Extends new t t')
    (hl : ∀ content, t.node? l ≠ some (.file content)) (content : Bytes) :
    t'.node? l ≠ some (.file content) := by
  rcases h.node? l with hsame | ⟨-, -, hdir⟩
  · rw [hsame]
    exact hl content
  · simp [hdir]

/-- The tree with directories at the first names below a location. -/
def openTo (t : FileTree) (base : Location) (ns : List Text) : Nat → FileTree
  | 0 => t
  | n + 1 => (t.openTo base ns n).withDirectory (base ++ ns.take (n + 1))

@[simp]
theorem workingDirectory_openTo (t : FileTree) (base : Location) (ns : List Text) (n : Nat) :
    (t.openTo base ns n).workingDirectory = t.workingDirectory := by
  induction n with
  | zero => rfl
  | succ n ih => rw [openTo, workingDirectory_withDirectory, ih]

/-- Where no file is on the way, directories are added on the way at most. -/
theorem openTo_extends
    (hfile : ∀ m ≤ n, ∀ content, t.node? (base ++ ns.take m) ≠ some (.file content)) :
    Extends (fun l => ∃ m ≤ n, l = base ++ ns.take m) t (t.openTo base ns n) := by
  induction n with
  | zero => exact .refl _ t
  | succ n ih =>
    have hrest := ih fun m hm => hfile m (Nat.le_succ_of_le hm)
    have hnext := hrest.not_file (hfile (n + 1) (Nat.le_refl _))
    refine (hrest.mono ?_).trans ((withDirectory_extends hnext).mono ?_)
    · rintro l ⟨m, hm, hl⟩
      exact ⟨m, Nat.le_succ_of_le hm, hl⟩
    · rintro l hl
      exact ⟨n + 1, Nat.le_refl _, hl⟩

theorem node?_openTo (hbase : t.node? base = some .directory) {m : Nat} (hm : m ≤ n) :
    (t.openTo base ns n).node? (base ++ ns.take m) = some .directory := by
  induction n with
  | zero =>
    rw [Nat.le_zero.mp hm, List.take_zero, List.append_nil]
    exact hbase
  | succ n ih =>
    rcases Nat.lt_or_eq_of_le hm with hlt | rfl
    · exact keepsDirectories_withDirectory _ _ _ (ih (Nat.le_of_lt_succ hlt))
    · exact node?_withDirectory_self _ _

theorem createDirectoriesTo_of_below (hb : Below root p ns) (t : FileTree) :
    t.createDirectoriesTo p (Path.names root).length = t.createDirectories root :=
  createDirectoriesTo_congr fun _ hm => hb.firstNames hm

/-- Where the root leads to a directory, none of its directories is created. -/
theorem createDirectories_of_leads (hp : Admitted p) (hb : Below root p ns)
    (hl : t.follow (t.origin root) (Path.names root) = .ok (.node base .directory)) :
    t.createDirectories root = (t, .ok ()) := by
  apply createDirectoriesTo_of_isDirectory
  intro hpos
  have hne : (Path.names p).take (Path.names root).length ≠ [] := by
    rw [hb.names, List.take_left]
    exact List.ne_nil_of_length_pos hpos
  have hadmitted := hp.firstNames hne
  rw [hb.firstNames (Nat.le_refl _)] at hadmitted
  refine isDirectory_eq_true_iff.mpr ⟨base, find_of_follow_directory hadmitted ?_⟩
  rw [follow_firstNames, List.take_length]
  exact hl

/-- **Below directories that were created all further ones can be**, where no file is on the way. -/
theorem createDirectories_below (hp : Admitted p) (hb : Below root p ns) (hplain : Plain ns)
    (h : t.createDirectories root = (t₁, .ok ()))
    (hl : t₁.follow (t₁.origin root) (Path.names root) = .ok (.node base .directory))
    (hfile : ∀ m ≤ ns.length, ∀ content, t₁.node? (base ++ ns.take m) ≠ some (.file content)) :
    t.createDirectories p = (t₁.openTo base ns ns.length, .ok ()) := by
  have hroot : t.createDirectoriesTo p (Path.names root).length = (t₁, .ok ()) :=
    (createDirectoriesTo_of_below hb t).trans h
  have htake : ∀ m, (Path.names p).take ((Path.names root).length + m) =
      Path.names root ++ ns.take m := by
    intro m
    rw [hb.names, List.take_length_add_append]
  have hlength : (Path.names p).length = (Path.names root).length + ns.length := by
    rw [hb.names, List.length_append]
  have hopen : ∀ m ≤ ns.length,
      t.createDirectoriesTo p ((Path.names root).length + m) = (t₁.openTo base ns m, .ok ()) ∧
        (t₁.openTo base ns m).follow (t₁.origin root) (Path.names root ++ ns.take m) =
          .ok (.node (base ++ ns.take m) .directory) := by
    intro m hm
    induction m with
    | zero =>
      rw [List.take_zero, List.append_nil, List.append_nil]
      exact ⟨hroot, hl⟩
    | succ m ih =>
      obtain ⟨hcreated, hleads⟩ := ih (Nat.le_of_succ_le hm)
      have hnext : ns.take (m + 1) = ns.take m ++ [ns[m]] := List.take_succ_eq_append_getElem hm
      have hname := hplain ns[m] (List.getElem_mem hm)
      have hway : Extends _ t₁ (t₁.openTo base ns m) :=
        openTo_extends fun k hk => hfile k (by omega)
      have hfree := hway.not_file (hfile (m + 1) hm)
      have horigin : (t₁.openTo base ns m).origin p = t₁.origin root := by
        rw [hb.origin, FileTree.origin, FileTree.origin, workingDirectory_openTo]
      have hthere : (t₁.openTo base ns m).follow ((t₁.openTo base ns m).origin p)
          ((Path.names p).take ((Path.names root).length + m)) =
            .ok (.node (base ++ ns.take m) .directory) := by
        rw [horigin, htake]
        exact hleads
      have hone : (Path.names p).take ((Path.names root).length + m + 1) =
          (Path.names p).take ((Path.names root).length + m) ++ [ns[m]] := by
        rw [Nat.add_assoc, htake, htake, hnext, List.append_assoc]
      rw [hnext, ← List.append_assoc] at hfree
      rw [openTo, hnext, ← List.append_assoc, ← List.append_assoc, ← Nat.add_assoc]
      exact ⟨createDirectoriesTo_succ hp hone (by omega) hname hcreated hthere hfree,
        follow_withDirectory hleads hname⟩
  rw [createDirectories, hlength]
  exact (hopen ns.length (Nat.le_refl _)).1

/-- Where a file is at the last name, nothing is created. -/
theorem createDirectories_of_file {content : Bytes} (hp : Admitted p) (hnames : Path.names p ≠ [])
    (h : t.follow (t.origin p) (Path.names p) = .ok (.node l (.file content))) :
    t.createDirectories p = (t, .error .exists) := by
  obtain ⟨n, hn, htake⟩ := Path.exists_length_names hnames
  rw [← htake] at hnames h
  rw [← follow_firstNames] at h
  have hfind := find_of_follow_file (hp.firstNames hnames) h
  rw [Path.demandsDirectory_firstNames hnames, if_neg Bool.false_ne_true] at hfind
  rw [createDirectories, hn, createDirectoriesTo, createDirectory, hfind]
  dsimp only
  rw [isDirectory, hfind, if_neg Bool.false_ne_true]

/-! ### What is listed -/

/-- What is listed for the location is what stands there. -/
def Listed (t : FileTree) (l : Location) : Prop :=
  ∀ n, (l, n) ∈ t.entries → t.node? l = some n

theorem listed_of_free (h : t.node? l = none) : Listed t l := by
  intro n hn
  have hne : l ≠ [] := by
    rintro rfl
    cases h
  have hnot := List.lookup_eq_none_iff.mp (by simpa [node?, hne] using h) _ hn
  simp at hnot

theorem Listed.put (h : Listed t l) (hne : l ≠ []) (other : Location) (n : Node) :
    Listed (t.put other n) l := by
  intro m hm
  rcases List.mem_cons.mp hm with he | hold
  · cases he
    exact t.node?_put_self hne n
  · obtain ⟨hmem, hother⟩ := List.mem_filter.mp hold
    have hl : l ≠ other := by simpa using hother
    rw [t.node?_put_of_ne hl]
    exact h m hmem

theorem Listed.withDirectory (h : Listed t l) (hne : l ≠ []) (other : Location) :
    Listed (t.withDirectory other) l := by
  unfold FileTree.withDirectory
  split
  · exact h
  · exact h.put hne other _

theorem Listed.openTo (h : Listed t l) (hne : l ≠ []) (base : Location) (ns : List Text) (n : Nat) :
    Listed (t.openTo base ns n) l := by
  induction n with
  | zero => exact h
  | succ n ih => exact ih.withDirectory hne _

/-- The names of the directories in a directory, where what is listed stands. -/
theorem mem_directoryNamesAt_iff (h : Listed t (l ++ [name])) :
    name ∈ t.directoryNamesAt l ↔ t.node? (l ++ [name]) = some .directory := by
  refine ⟨fun hmem => ?_, mem_directoryNamesAt⟩
  obtain ⟨⟨location, n⟩, hentry, hname⟩ := List.mem_filterMap.mp hmem
  dsimp only at hname
  split at hname
  · rename_i last hlast
    split at hname
    · rename_i hparent
      cases hname
      have hlocation : location = l ++ [name] := by
        rw [← hparent]
        exact (List.dropLast_append_getLast? name hlast).symm
      rw [hlocation] at hentry
      exact h _ hentry
    · cases hname
  · cases hname

end MangaPress.FileTree
