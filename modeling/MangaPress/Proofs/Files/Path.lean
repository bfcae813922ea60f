/-
# The names of a path

`Path.firstNames p n` is a path of its own: its names are the first `n` names of `p`, it is absolute
if `p` is, and its characters are a choice of the characters of `p`, so that no limit on paths that
`p` keeps is broken. The names of a path that is joined to another one follow the names of that one,
so a single name that is joined is the last. The stem of a name is a choice of its characters.

Key theorems: `Path.names_firstNames`, `Path.firstNames_sublist`, `Path.isAbsolute_firstNames`,
`Path.demandsDirectory_firstNames`, `Path.names_join_of_relative`, `Path.names_join`,
`Path.isAbsolute_join`, `Path.stem_sublist`.
-/
import MangaPress.Files.Tree
import MangaPress.Proofs.Text.Split
import MangaPress.Proofs.Text.Utf8

namespace MangaPress.Path

theorem names_sublist (p : Path) : (names p).Sublist (Text.splitOn '/' p) :=
  List.filter_sublist

/-- A name is not empty, no single dot, and holds no slash. -/
theorem of_mem_names {p name : Text} (h : name ∈ names p) :
    name ≠ [] ∧ name ≠ ['.'] ∧ '/' ∉ name := by
  obtain ⟨hmem, hname⟩ := List.mem_filter.mp h
  refine ⟨?_, ?_, Text.not_mem_of_mem_splitOn hmem⟩
  · rintro rfl
    simp at hname
  · rintro rfl
    simp at hname

theorem splitOn_cons_slash (p : Path) : Text.splitOn '/' ('/' :: p) = [] :: Text.splitOn '/' p := by
  rw [Text.splitOn, if_pos rfl]

theorem names_cons_slash (p : Path) : names ('/' :: p) = names p := by
  rw [names, splitOn_cons_slash]
  rfl

/-- Names are what is found in the path that they make up. -/
theorem names_joinWith {ns : List Text} (h : ∀ n ∈ ns, n ≠ [] ∧ n ≠ ['.'] ∧ '/' ∉ n) :
    names (Text.joinWith ['/'] ns) = ns := by
  by_cases hne : ns = []
  · rw [hne]
    rfl
  · rw [names, Text.splitOn_joinWith (fun n hn => (h n hn).2.2) hne, List.filter_eq_self]
    intro n hn
    obtain ⟨h1, h2, -⟩ := h n hn
    simp [h1, h2]

theorem names_firstNames (p : Path) (n : Nat) : names (firstNames p n) = (names p).take n := by
  have hjoin : names (Text.joinWith ['/'] ((names p).take n)) = (names p).take n :=
    names_joinWith fun m hm => of_mem_names (List.mem_of_mem_take hm)
  unfold firstNames
  dsimp only
  split
  · rw [names_cons_slash, hjoin]
  · exact hjoin

theorem firstNames_sublist (p : Path) (n : Nat) : (firstNames p n).Sublist p := by
  have htake : ∀ q : Path, (Text.joinWith ['/'] ((names q).take n)).Sublist q := by
    intro q
    have h := Text.joinWith_sublist ['/']
      ((List.take_sublist n (names q)).trans (names_sublist q))
    rwa [Text.joinWith_splitOn] at h
  unfold firstNames
  dsimp only
  split
  · rename_i ha
    cases p with
    | nil => exact absurd ha (by decide)
    | cons c rest =>
      have hc : c = '/' := by simpa [isAbsolute] using ha
      rw [hc, names_cons_slash]
      exact (htake rest).cons_cons '/'
  · exact htake p

theorem isAbsolute_firstNames (p : Path) (n : Nat) :
    isAbsolute (firstNames p n) = isAbsolute p := by
  unfold firstNames
  dsimp only
  split
  · rename_i ha
    rw [ha]
    rfl
  · rename_i ha
    rw [Bool.not_eq_true] at ha
    rw [ha]
    cases hn : (names p).take n with
    | nil => rfl
    | cons name rest =>
      -- The first character is that of a name, and no name holds a slash.
      obtain ⟨hne, -, hslash⟩ := of_mem_names (List.mem_of_mem_take (hn ▸ List.mem_cons_self))
      obtain ⟨c, cs, rfl⟩ := List.exists_cons_of_ne_nil hne
      have hc : c ≠ '/' := fun h => hslash (h ▸ List.mem_cons_self)
      cases rest <;> simp [isAbsolute, Text.joinWith, hc]

theorem firstNames_ne_nil {p : Path} {n : Nat} (h : (names p).take n ≠ []) :
    firstNames p n ≠ [] := by
  intro he
  rw [← names_firstNames, he] at h
  exact h rfl

/-- A path with names is that of all of them, up to the last. -/
theorem exists_length_names {p : Path} (h : names p ≠ []) :
    ∃ n, (names p).length = n + 1 ∧ (names p).take (n + 1) = names p := by
  obtain ⟨n, hn⟩ := Nat.exists_eq_add_of_lt (List.length_pos_iff.mpr h)
  rw [Nat.zero_add] at hn
  exact ⟨n, hn, List.take_of_length_le (Nat.le_of_eq hn)⟩

/-- A path that is made up of names does not demand a directory. -/
theorem demandsDirectory_firstNames {p : Path} {n : Nat} (h : (names p).take n ≠ []) :
    demandsDirectory (firstNames p n) = false := by
  have hname : ∀ m ∈ (names p).take n, m ≠ [] ∧ m ≠ ['.'] ∧ '/' ∉ m :=
    fun m hm => of_mem_names (List.mem_of_mem_take hm)
  have hsplit := Text.splitOn_joinWith (fun m hm => (hname m hm).2.2) h
  obtain ⟨before, last, hlast⟩ := (List.eq_nil_or_concat _).resolve_left h
  rw [List.concat_eq_append] at hlast
  obtain ⟨hne, hdot, -⟩ := hname last (by simp [hlast])
  unfold firstNames
  dsimp only
  split
  · rw [demandsDirectory, splitOn_cons_slash, hsplit, hlast, ← List.cons_append,
      List.getLast?_concat]
    simp [hne, hdot]
  · rw [demandsDirectory, hsplit, hlast, List.getLast?_concat]
    simp [hne, hdot]

theorem firstNames_firstNames (p : Path) {m n : Nat} (h : m ≤ n) :
    firstNames (firstNames p n) m = firstNames p m := by
  rw [firstNames, names_firstNames, List.take_take, Nat.min_eq_left h, isAbsolute_firstNames]
  rfl

/-! ### Paths below others -/

section Join

variable {p name : Text}

theorem isAbsolute_of_noSlash (h : '/' ∉ name) : isAbsolute name = false := by
  cases name with
  | nil => rfl
  | cons c name => simpa [isAbsolute] using fun hc : c = '/' => h (hc ▸ List.mem_cons_self)

/-- A slash is put before the path unless it is there, or there is nothing before it. -/
theorem join_of_relative (base : Path) (h : isAbsolute p = false) :
    join base p = base ++ p ∧ (base = [] ∨ ∃ b, base = b ++ ['/']) ∨
      join base p = base ++ '/' :: p ∧ base ≠ [] := by
  rw [join, h, if_neg Bool.false_ne_true]
  split
  · rename_i hend
    refine .inl ⟨rfl, ?_⟩
    rw [Bool.or_eq_true, List.isEmpty_iff, beq_iff_eq, List.getLast?_eq_some_iff] at hend
    exact hend
  · rename_i hend
    refine .inr ⟨rfl, ?_⟩
    rintro rfl
    exact hend rfl

theorem join_of_noSlash (base : Path) (h : '/' ∉ name) :
    join base name = base ++ name ∧ (base = [] ∨ ∃ b, base = b ++ ['/']) ∨
      join base name = base ++ '/' :: name ∧ base ≠ [] :=
  join_of_relative base (isAbsolute_of_noSlash h)

theorem names_append_slash (base p : Path) : names (base ++ '/' :: p) = names base ++ names p := by
  unfold names
  rw [Text.splitOn_eq_splitOn, Text.splitOn_eq_splitOn, Text.splitOn_eq_splitOn,
    List.splitOn_append_cons_self, List.filter_append]

/-- The names of a path follow those of the path that it is below. -/
theorem names_join_of_relative (base : Path) (h : isAbsolute p = false) :
    names (join base p) = names base ++ names p := by
  rcases join_of_relative base h with ⟨hj, rfl | ⟨b, rfl⟩⟩ | ⟨hj, -⟩
  · rw [hj]
    rfl
  · have hb : names (b ++ ['/']) = names b := by
      rw [names_append_slash]
      exact List.append_nil _
    rw [hj, hb, List.append_assoc]
    exact names_append_slash b p
  · rw [hj, names_append_slash]

theorem isAbsolute_join_of_relative (base : Path) (h : isAbsolute p = false) :
    isAbsolute (join base p) = isAbsolute base := by
  rcases join_of_relative base h with ⟨hj, rfl | ⟨b, rfl⟩⟩ | ⟨hj, hne⟩
  · rw [hj]
    exact h
  · rw [hj]
    cases b <;> rfl
  · obtain ⟨c, base, rfl⟩ := List.exists_cons_of_ne_nil hne
    rw [hj]
    rfl

/-! ### One more name -/

theorem names_of_name (hne : name ≠ []) (hdot : name ≠ ['.']) (h : '/' ∉ name) :
    names name = [name] := by
  have hkeep : [name].filter (fun name => !name.isEmpty && name != ['.']) = [name] := by
    simp [hne, hdot]
  rw [names, Text.splitOn_eq_splitOn, List.splitOn_eq_singleton h, hkeep]

theorem names_join (base : Path) (hne : name ≠ []) (hdot : name ≠ ['.']) (h : '/' ∉ name) :
    names (join base name) = names base ++ [name] := by
  rw [names_join_of_relative base (isAbsolute_of_noSlash h), names_of_name hne hdot h]

theorem isAbsolute_join (base : Path) (h : '/' ∉ name) :
    isAbsolute (join base name) = isAbsolute base :=
  isAbsolute_join_of_relative base (isAbsolute_of_noSlash h)

theorem not_mem_join {base : Path} {c : Char} (hslash : c ≠ '/') (h : '/' ∉ name) (hbase : c ∉ base)
    (hname : c ∉ name) : c ∉ join base name := by
  rcases join_of_noSlash base h with ⟨hj, -⟩ | ⟨hj, -⟩
  · rw [hj, List.mem_append, not_or]
    exact ⟨hbase, hname⟩
  · rw [hj, List.mem_append, List.mem_cons, not_or, not_or]
    exact ⟨hbase, hslash, hname⟩

theorem utf8Length_join_le (base : Path) (h : '/' ∉ name) :
    Text.utf8Length (join base name) ≤ Text.utf8Length base + 1 + Text.utf8Length name := by
  have hslash : Text.utf8Length ('/' :: name) = 1 + Text.utf8Length name :=
    Text.utf8Length_append ['/'] name
  rcases join_of_noSlash base h with ⟨hj, -⟩ | ⟨hj, -⟩
  · rw [hj, Text.utf8Length_append]
    omega
  · rw [hj, Text.utf8Length_append, hslash]
    omega

end Join

/-! ### Stems -/

theorem stem_sublist (name : Text) : (stem name).Sublist name := by
  have hself := List.Sublist.refl name
  unfold stem
  split
  · rename_i last before earlier hpieces
    have hkept : (before :: earlier).reverse.Sublist (Text.splitOn '.' name) := by
      have hdropped : (before :: earlier).Sublist (Text.splitOn '.' name).reverse :=
        hpieces ▸ List.sublist_cons_self last (before :: earlier)
      simpa using hdropped.reverse
    have hjoined := Text.joinWith_sublist ['.'] hkept
    rw [Text.joinWith_splitOn] at hjoined
    dsimp only
    split
    · exact hself
    · exact hjoined
  · exact hself

theorem slash_not_mem_of_fileStem? {p : Path} {t : Text} (h : fileStem? p = some t) : '/' ∉ t := by
  obtain ⟨name, hname, rfl⟩ := Option.map_eq_some_iff.mp h
  obtain ⟨hlast, -⟩ := Option.filter_eq_some_iff.mp hname
  exact fun hmem =>
    (of_mem_names (List.mem_of_getLast? hlast)).2.2 ((stem_sublist name).subset hmem)

end MangaPress.Path
