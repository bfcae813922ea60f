/-
# Writing and reading back

A path can be opened as a file or not, whatever is to be written (`FileTree.OpensAt`). If it cannot,
nothing is changed. If it can, as much as there is room for is what `FileTree.bytesAt` finds there
afterwards. A path that leads somewhere goes through directories only, so creating those above it is
no change, and a path whose directories could not be created leads nowhere.

Key definition: `FileTree.OpensAt`.
Key theorems: `FileTree.follow_cons_cases`, `FileTree.write_cases`, `FileTree.bytesAt_write`,
`FileTree.isDirectory_firstNames`, `FileTree.createParents_of_find`,
`FileTree.find_of_createParents_error`.
-/
import MangaPress.Proofs.Files.Path
import MangaPress.Proofs.Lookup

namespace MangaPress

namespace Room

variable {room : Room} {content : Bytes}

theorem part_of_holds (h : room.holds content = true) : room.part content = content := by
  cases room with
  | ample => rfl
  | bytes n => exact List.take_of_length_le (of_decide_eq_true h)

end Room

namespace FileTree

/-! ### Locations -/

theorem node?_put_self (t : FileTree) {location : Location} (h : location ≠ []) (n : Node) :
    (t.put location n).node? location = some n := by
  rw [node?, if_neg (by simpa using h), put, lookup_cons_eq_ite, if_pos rfl]

theorem node?_put_of_ne (t : FileTree) {location other : Location} (h : other ≠ location)
    (n : Node) : (t.put location n).node? other = t.node? other := by
  unfold node? put
  rw [lookup_cons_eq_ite, if_neg h, lookup_filter_ne, if_neg h]

theorem node?_nil (t : FileTree) : t.node? [] = some .directory := rfl

/-! ### Following names -/

variable {t : FileTree} {start : Location} {name : Text} {rest : List Text}

theorem follow_nil_eq_ok_iff {found : Found} :
    t.follow start [] = .ok found ↔ ∃ n, t.node? start = some n ∧ found = .node start n := by
  unfold follow
  cases t.node? start with
  | none => simp
  | some n => simp [eq_comm]

/-- In a directory a name leads up, nowhere, to a place that is free, or down. -/
theorem follow_cons (hd : t.node? start = some .directory) :
    t.follow start (name :: rest) =
      if name = ['.', '.'] then t.follow start.dropLast rest
      else if maxNameLength < Text.utf8Length name then .error .nameTooLong
      else if rest.isEmpty && (t.node? (start ++ [name])).isNone then .ok (.free (start ++ [name]))
      else t.follow (start ++ [name]) rest := by
  rw [follow, hd]

theorem follow_parent (hd : t.node? start = some .directory) :
    t.follow start (['.', '.'] :: rest) = t.follow start.dropLast rest := by
  rw [follow_cons hd, if_pos rfl]

theorem follow_child (hd : t.node? start = some .directory) (hn : name ≠ ['.', '.'])
    (hl : Text.utf8Length name ≤ maxNameLength)
    (hc : rest ≠ [] ∨ t.node? (start ++ [name]) ≠ none) :
    t.follow start (name :: rest) = t.follow (start ++ [name]) rest := by
  have hstop : ¬ ((rest.isEmpty && (t.node? (start ++ [name])).isNone) = true) := by
    simpa [Decidable.not_and_iff_or_not, imp_iff_not_or] using hc
  rw [follow_cons hd, if_neg hn, if_neg (Nat.not_lt.mpr hl), if_neg hstop]

theorem follow_last (hd : t.node? start = some .directory) (hn : name ≠ ['.', '.'])
    (hl : Text.utf8Length name ≤ maxNameLength) (hc : t.node? (start ++ [name]) = none) :
    t.follow start [name] = .ok (.free (start ++ [name])) := by
  rw [follow_cons hd, if_neg hn, if_neg (Nat.not_lt.mpr hl), hc]
  rfl

/-- What a name can lead to: up, to a place that is free, or down. -/
theorem follow_cons_cases {found : Found} (h : t.follow start (name :: rest) = .ok found) :
    t.node? start = some .directory ∧
    (name = ['.', '.'] ∧ t.follow start.dropLast rest = .ok found ∨
      name ≠ ['.', '.'] ∧ Text.utf8Length name ≤ maxNameLength ∧
        (rest = [] ∧ t.node? (start ++ [name]) = none ∧ found = .free (start ++ [name]) ∨
          (rest ≠ [] ∨ t.node? (start ++ [name]) ≠ none) ∧
            t.follow (start ++ [name]) rest = .ok found)) := by
  cases hd : t.node? start with
  | none =>
    rw [follow, hd] at h
    cases h
  | some n =>
    cases n with
    | file content =>
      rw [follow, hd] at h
      cases h
    | directory =>
      refine ⟨rfl, ?_⟩
      by_cases hn : name = ['.', '.']
      · subst hn
        rw [follow_parent hd] at h
        exact .inl ⟨rfl, h⟩
      · by_cases hl : Text.utf8Length name ≤ maxNameLength
        · refine .inr ⟨hn, hl, ?_⟩
          by_cases hc : rest ≠ [] ∨ t.node? (start ++ [name]) ≠ none
          · rw [follow_child hd hn hl hc] at h
            exact .inr ⟨hc, h⟩
          · rw [not_or, not_not, not_not] at hc
            obtain ⟨rfl, hfree⟩ := hc
            rw [follow_last hd hn hl hfree] at h
            cases h
            exact .inl ⟨rfl, hfree, rfl⟩
        · rw [follow_cons hd, if_neg hn, if_pos (Nat.lt_of_not_le hl)] at h
          cases h

theorem node?_of_follow {l : Location} {n : Node} : ∀ {names : List Text} {start : Location},
    t.follow start names = .ok (.node l n) → t.node? l = some n
  | [], start, h => by
    obtain ⟨m, hm, he⟩ := follow_nil_eq_ok_iff.mp h
    cases he
    exact hm
  | name :: rest, start, h => by
    obtain ⟨-, ⟨-, hup⟩ | ⟨-, -, ⟨-, -, he⟩ | ⟨-, hdown⟩⟩⟩ := follow_cons_cases h
    · exact node?_of_follow hup
    · cases he
    · exact node?_of_follow hdown

theorem node?_of_follow_free {l : Location} : ∀ {names : List Text} {start : Location},
    t.follow start names = .ok (.free l) → t.node? l = none
  | [], start, h => by
    obtain ⟨m, hm, he⟩ := follow_nil_eq_ok_iff.mp h
    cases he
  | name :: rest, start, h => by
    obtain ⟨-, ⟨-, hup⟩ | ⟨-, -, ⟨-, hfree, he⟩ | ⟨-, hdown⟩⟩⟩ := follow_cons_cases h
    · exact node?_of_follow_free hup
    · cases he
      exact hfree
    · exact node?_of_follow_free hdown

/-- Names that more names follow lead to a directory, and those lead on from there. -/
theorem follow_of_append {found : Found} {ms : List Text} (hm : ms ≠ []) :
    ∀ {names : List Text} {start : Location}, t.follow start (names ++ ms) = .ok found →
    ∃ l, t.follow start names = .ok (.node l .directory) ∧ t.follow l ms = .ok found
  | [], start, h => by
    obtain ⟨m, ms, rfl⟩ := List.exists_cons_of_ne_nil hm
    obtain ⟨hd, -⟩ := follow_cons_cases h
    exact ⟨start, follow_nil_eq_ok_iff.mpr ⟨_, hd, rfl⟩, h⟩
  | name :: rest, start, h => by
    have hne : rest ++ ms ≠ [] := fun he => hm (List.append_eq_nil_iff.mp he).2
    obtain ⟨hd, ⟨rfl, hup⟩ | ⟨hn, hl, ⟨he, -, -⟩ | ⟨-, hdown⟩⟩⟩ := follow_cons_cases h
    · obtain ⟨l, hf, hon⟩ := follow_of_append hm hup
      exact ⟨l, (follow_parent hd).trans hf, hon⟩
    · exact absurd he hne
    · obtain ⟨l, hf, hon⟩ := follow_of_append hm hdown
      refine ⟨l, (follow_child hd hn hl ?_).trans hf, hon⟩
      cases rest with
      | nil =>
        obtain ⟨m, hmn, -⟩ := follow_nil_eq_ok_iff.mp hf
        exact .inr (by rw [hmn]; exact Option.some_ne_none m)
      | cons r rs => exact .inl (List.cons_ne_nil r rs)

/-- The location that a path leads to. -/
def Found.location : Found → Location
  | .node l _ => l
  | .free l => l

/-- One name leads to the place of that name. -/
theorem location_of_follow_singleton {found : Found} (hn : name ≠ ['.', '.'])
    (h : t.follow start [name] = .ok found) : found.location = start ++ [name] := by
  obtain ⟨-, ⟨hup, -⟩ | ⟨-, -, ⟨-, -, rfl⟩ | ⟨-, hdown⟩⟩⟩ := follow_cons_cases h
  · exact absurd hup hn
  · rfl
  · obtain ⟨n, -, rfl⟩ := follow_nil_eq_ok_iff.mp hdown
    rfl

/-- Where no directory is, something can be put, and the names that lead there lead to it. -/
theorem follow_put {found : Found} (n : Node)
    (hno : t.node? found.location ≠ some .directory) :
    ∀ {names : List Text} {start : Location}, t.follow start names = .ok found →
    (t.put found.location n).follow start names = .ok (.node found.location n) := by
  have hne : found.location ≠ [] := fun h => hno (h ▸ t.node?_nil)
  have hself := t.node?_put_self hne n
  -- The way there goes through directories, and they stay as they are.
  have hway : ∀ l, t.node? l = some .directory →
      (t.put found.location n).node? l = some .directory := by
    intro l hl
    rw [t.node?_put_of_ne (fun he => hno (by rw [← he]; exact hl))]
    exact hl
  intro names
  induction names with
  | nil =>
    intro start h
    obtain ⟨m, -, rfl⟩ := follow_nil_eq_ok_iff.mp h
    exact follow_nil_eq_ok_iff.mpr ⟨_, hself, rfl⟩
  | cons name rest ih =>
    intro start h
    obtain ⟨hd, ⟨rfl, hup⟩ | ⟨hn, hl, ⟨rfl, -, rfl⟩ | ⟨hc, hdown⟩⟩⟩ := follow_cons_cases h
    · rw [follow_parent (hway start hd)]
      exact ih hup
    · change (t.put (start ++ [name]) n).node? (start ++ [name]) = _ at hself
      rw [follow_child (hway start hd) hn hl (.inr (by
        show (t.put (start ++ [name]) n).node? (start ++ [name]) ≠ none
        rw [hself]
        exact Option.some_ne_none _))]
      exact follow_nil_eq_ok_iff.mpr ⟨_, hself, rfl⟩
    · rw [follow_child (hway start hd) hn hl ?_]
      · exact ih hdown
      · refine hc.imp_right fun hsome => ?_
        by_cases he : start ++ [name] = found.location
        · rw [he, hself]
          exact Option.some_ne_none _
        · rw [t.node?_put_of_ne he]
          exact hsome

/-! ### Paths -/

/-- What it takes for a path to be looked up at all. -/
structure Admitted (p : Path) : Prop where
  noNul : '\x00' ∉ p
  ne_nil : p ≠ []
  length_le : Text.utf8Length p ≤ maxPathLength

/-- Where the names of a path begin. -/
def origin (t : FileTree) (p : Path) : Location :=
  if Path.isAbsolute p then [] else t.workingDirectory

theorem find_eq_ok_iff {p : Path} {found : Found} : t.find p = .ok found ↔
    Admitted p ∧ t.follow (t.origin p) (Path.names p) = .ok found ∧
      ∀ l content, found = .node l (.file content) → Path.demandsDirectory p = false := by
  constructor
  · intro h
    unfold find at h
    split at h
    · cases h
    rename_i hnul
    split at h
    · cases h
    rename_i hnil
    split at h
    · cases h
    rename_i hlen
    refine ⟨⟨by simpa using hnul, by simpa using hnil, Nat.le_of_not_lt hlen⟩, ?_⟩
    unfold origin
    split at h
    · cases h
    · rename_i location content hf
      split at h
      · cases h
      · rename_i hdir
        cases h
        exact ⟨hf, fun _ _ _ => by simpa using hdir⟩
    · rename_i found' hno hf
      cases h
      exact ⟨hf, fun l content he => absurd he (hno l content)⟩
  · rintro ⟨⟨hnul, hnil, hlen⟩, hf, hdir⟩
    unfold origin at hf
    unfold find
    rw [if_neg (by simpa using hnul), if_neg (by simpa using hnil),
      if_neg (Nat.not_lt.mpr hlen), hf]
    cases found with
    | free l => rfl
    | node l n =>
      cases n with
      | directory => rfl
      | file content =>
        dsimp only
        rw [if_neg (by simpa using hdir l content rfl)]

theorem bytesAt_eq_ok_iff {p : Path} {content : Bytes} :
    t.bytesAt p = .ok content ↔ ∃ l, t.find p = .ok (.node l (.file content)) := by
  unfold bytesAt
  cases h : t.find p with
  | error e => simp
  | ok found =>
    cases found with
    | free l => simp
    | node l n => cases n <;> simp

theorem isDirectory_eq_true_iff {p : Path} :
    t.isDirectory p = true ↔ ∃ l, t.find p = .ok (.node l .directory) := by
  unfold isDirectory
  cases h : t.find p with
  | error e => simp
  | ok found =>
    cases found with
    | free l => simp
    | node l n => cases n <;> simp

/-! ### Writing -/

/-- The path can be opened as the file at a location: it is there, or nothing is and it can be made. -/
inductive OpensAt (t : FileTree) (p : Path) : Location → Prop where
  | file {l : Location} {old : Bytes} (found : t.find p = .ok (.node l (.file old))) : OpensAt t p l
  | free {l : Location} (found : t.find p = .ok (.free l))
    (asFile : Path.demandsDirectory p = false) : OpensAt t p l

namespace OpensAt

variable {p : Path} {l : Location}

theorem write_eq (h : t.OpensAt p l) (content : Bytes) (room : Room) :
    t.write p content room = t.fill l content room := by
  unfold write
  cases h with
  | file found => rw [found]
  | free found asFile =>
    rw [found]
    dsimp only
    rw [asFile, if_neg (by decide)]

theorem node?_ne (h : t.OpensAt p l) : t.node? l ≠ some .directory := by
  cases h with
  | file found => simp [node?_of_follow (find_eq_ok_iff.mp found).2.1]
  | free found _ => simp [node?_of_follow_free (find_eq_ok_iff.mp found).2.1]

theorem ne_nil (h : t.OpensAt p l) : l ≠ [] := by
  rintro rfl
  exact h.node?_ne t.node?_nil

/-- What is put there is found there. -/
theorem bytesAt_put (h : t.OpensAt p l) (content : Bytes) :
    (t.put l (.file content)).bytesAt p = .ok content := by
  have hput : ∀ found : Found, t.find p = .ok found → found.location = l →
      Path.demandsDirectory p = false → (t.put l (.file content)).bytesAt p = .ok content := by
    rintro found hf rfl hdir
    obtain ⟨hp, hfollow, -⟩ := find_eq_ok_iff.mp hf
    exact bytesAt_eq_ok_iff.mpr ⟨found.location,
      find_eq_ok_iff.mpr ⟨hp, follow_put (.file content) h.node?_ne hfollow, fun _ _ _ => hdir⟩⟩
  cases h with
  | file found => exact hput _ found rfl ((find_eq_ok_iff.mp found).2.2 _ _ rfl)
  | free found asFile => exact hput _ found rfl asFile

end OpensAt

/-- Where a path cannot be opened as a file, there is none, and nothing is written, for a reason that
is the same whatever is to be written. -/
theorem write_cases (t : FileTree) (p : Path) :
    (∃ l, t.OpensAt p l) ∨
      ∃ e, (∀ content room, t.write p content room = (t, .error e)) ∧
        ∀ old, t.bytesAt p ≠ .ok old := by
  unfold write bytesAt
  cases hf : t.find p with
  | error e => exact .inr ⟨e, fun _ _ => rfl, nofun⟩
  | ok found =>
    cases found with
    | node l n =>
      cases n with
      | file old => exact .inl ⟨l, .file hf⟩
      | directory => exact .inr ⟨.isDirectory, fun _ _ => rfl, nofun⟩
    | free l =>
      cases hdir : Path.demandsDirectory p with
      | false => exact .inl ⟨l, .free hf hdir⟩
      | true => exact .inr ⟨.isDirectory, fun _ _ => rfl, nofun⟩

/-- If writing succeeds, the path was opened and there was room for the whole content. -/
theorem opensAt_of_write {t' : FileTree} {p : Path} {content : Bytes} {room : Room}
    (h : t.write p content room = (t', .ok ())) :
    ∃ l, t.OpensAt p l ∧ t' = t.put l (.file content) := by
  rcases t.write_cases p with ⟨l, hl⟩ | ⟨e, herror, -⟩
  · rw [hl.write_eq, fill] at h
    obtain ⟨rfl, hwritten⟩ := Prod.mk.inj h
    have hholds : room.holds content = true := by
      by_contra hno
      rw [if_neg hno] at hwritten
      cases hwritten
    exact ⟨l, hl, by rw [Room.part_of_holds hholds]⟩
  · rw [herror] at h
    cases h

/-- What is written can be read. -/
theorem bytesAt_write {t' : FileTree} {p : Path} {content : Bytes} {room : Room}
    (h : t.write p content room = (t', .ok ())) : t'.bytesAt p = .ok content := by
  obtain ⟨l, hl, rfl⟩ := opensAt_of_write h
  exact hl.bytesAt_put content

/-- A path of one more name leads to the place of that name, in the directory of the names before. -/
theorem location_of_find_concat {p : Path} {found : Found} {names : List Text}
    (h : t.find p = .ok found) (hp : Path.names p = names ++ [name]) (hn : name ≠ ['.', '.']) :
    ∃ l, t.follow (t.origin p) names = .ok (.node l .directory) ∧ found.location = l ++ [name] := by
  obtain ⟨-, hfollow, -⟩ := find_eq_ok_iff.mp h
  rw [hp] at hfollow
  obtain ⟨l, hl, hon⟩ := follow_of_append (List.cons_ne_nil name []) hfollow
  exact ⟨l, hl, location_of_follow_singleton hn hon⟩

/-! ### The directories above a path -/

theorem Admitted.firstNames {p : Path} (h : Admitted p) {n : Nat}
    (hn : (Path.names p).take n ≠ []) : Admitted (Path.firstNames p n) where
  noNul := fun hm => h.noNul ((Path.firstNames_sublist p n).mem hm)
  ne_nil := Path.firstNames_ne_nil hn
  length_le :=
    Nat.le_trans (Text.utf8Length_le_of_sublist (Path.firstNames_sublist p n)) h.length_le

theorem origin_firstNames (p : Path) (n : Nat) :
    t.origin (Path.firstNames p n) = t.origin p := by
  rw [origin, origin, Path.isAbsolute_firstNames]

/-- A path that leads somewhere goes through directories. -/
theorem isDirectory_firstNames {p : Path} {found : Found} (h : t.find p = .ok found) {n : Nat}
    (hpos : 0 < n) (hn : n < (Path.names p).length) :
    t.isDirectory (Path.firstNames p n) = true := by
  obtain ⟨hp, hfollow, -⟩ := find_eq_ok_iff.mp h
  rw [← List.take_append_drop n (Path.names p)] at hfollow
  have hdrop : (Path.names p).drop n ≠ [] := by
    rw [Ne, List.drop_eq_nil_iff]
    omega
  have htake : (Path.names p).take n ≠ [] := by
    rw [Ne, List.take_eq_nil_iff, ← List.length_eq_zero_iff]
    omega
  obtain ⟨l, hl, -⟩ := follow_of_append hdrop hfollow
  refine isDirectory_eq_true_iff.mpr ⟨l, find_eq_ok_iff.mpr ⟨hp.firstNames htake, ?_, ?_⟩⟩
  · rw [origin_firstNames, Path.names_firstNames]
    exact hl
  · intro l' content he
    cases he

theorem createDirectoriesTo_of_isDirectory {p : Path} : ∀ {n : Nat},
    (0 < n → t.isDirectory (Path.firstNames p n) = true) →
    t.createDirectoriesTo p n = (t, .ok ())
  | 0, _ => rfl
  | n + 1, h => by
    have hd := h (Nat.succ_pos n)
    obtain ⟨l, hl⟩ := isDirectory_eq_true_iff.mp hd
    have hc : t.createDirectory (Path.firstNames p (n + 1)) = .error .exists := by
      rw [createDirectory, hl]
    rw [createDirectoriesTo, hc]
    dsimp only
    rw [hd, if_pos rfl]

/-- Where directories cannot be created, one of them is missing in the end. -/
theorem exists_of_createDirectoriesTo_error {p : Path} {e : FileError} : ∀ {n : Nat}
    {t t' : FileTree}, t.createDirectoriesTo p n = (t', .error e) →
    ∃ m, 0 < m ∧ m ≤ n ∧ t'.isDirectory (Path.firstNames p m) = false
  | 0, _, _, h => by
    rw [createDirectoriesTo] at h
    cases h
  | n + 1, t, t', h => by
    have hself : ∀ u : FileTree, ∀ e', (u, if u.isDirectory (Path.firstNames p (n + 1)) then
        Except.ok () else .error e') = (t', (.error e : Except FileError Unit)) →
        t'.isDirectory (Path.firstNames p (n + 1)) = false := by
      intro u e' hu
      cases hd : u.isDirectory (Path.firstNames p (n + 1)) with
      | true =>
        rw [hd] at hu
        cases hu
      | false =>
        rw [← (Prod.mk.inj hu).1]
        exact hd
    rw [createDirectoriesTo] at h
    split at h
    · cases h
    · split at h
      · rename_i hrec
        cases h
        obtain ⟨m, hpos, hm, hd⟩ := exists_of_createDirectoriesTo_error hrec
        exact ⟨m, hpos, Nat.le_succ_of_le hm, hd⟩
      · split at h
        · cases h
        · exact ⟨n + 1, Nat.succ_pos n, Nat.le_refl _, hself _ _ h⟩
    · exact ⟨n + 1, Nat.succ_pos n, Nat.le_refl _, hself _ _ h⟩

theorem createDirectoriesTo_congr {p q : Path} : ∀ {n : Nat} {t : FileTree},
    (∀ m ≤ n, Path.firstNames p m = Path.firstNames q m) →
    t.createDirectoriesTo p n = t.createDirectoriesTo q n
  | 0, _, _ => rfl
  | n + 1, t, h => by
    rw [createDirectoriesTo, createDirectoriesTo, h (n + 1) (Nat.le_refl _),
      createDirectoriesTo_congr fun m hm => h m (Nat.le_succ_of_le hm)]

/-- The directories above a path are those of all its names but the last. -/
theorem createParents_eq (t : FileTree) (p : Path) :
    t.createParents p = t.createDirectoriesTo p ((Path.names p).length - 1) := by
  unfold createParents Path.parent?
  split
  · rename_i parent hp
    split at hp
    · cases hp
    · cases hp
      rw [createDirectories, Path.names_firstNames, List.length_take,
        Nat.min_eq_left (Nat.sub_le _ _)]
      exact createDirectoriesTo_congr fun m hm => Path.firstNames_firstNames p hm
  · rename_i hp
    split at hp
    · rename_i hnone
      rw [List.isEmpty_iff.mp hnone]
      rfl
    · cases hp

/-- Above a path that leads somewhere no directory is missing. -/
theorem createParents_of_find {p : Path} {found : Found} (h : t.find p = .ok found) :
    t.createParents p = (t, .ok ()) := by
  rw [createParents_eq]
  exact createDirectoriesTo_of_isDirectory fun hpos => isDirectory_firstNames h hpos (by omega)

/-- A path whose directories could not be created leads nowhere. -/
theorem find_of_createParents_error {p : Path} {t' : FileTree} {e : FileError}
    (h : t.createParents p = (t', .error e)) (found : Found) : t'.find p ≠ .ok found := by
  rw [createParents_eq] at h
  obtain ⟨m, hpos, hle, hd⟩ := exists_of_createDirectoriesTo_error h
  intro hf
  rw [isDirectory_firstNames hf hpos (by omega)] at hd
  cases hd

end FileTree

end MangaPress
