/-
# The numbered folders of days

The folder of a day is that of no other day, so the numbered folders of different days have nothing
to do with one another. A `Tally` counts them: below the root the numbered folders of each day are
those from 1 to its count. So the next number of the day is one more than the count, the folder with
this number is new, and once it is created the count of this day is one more and that of every other
day is what it was. Files in numbered folders count for nothing.

Key definitions: `dayNames`, `folderNames`, `withFolder`, `Tally`.
Key theorems: `eq_of_placeFrom_dayPath`, `Tally.directoryNames`, `Tally.nextNumber`, `Tally.grow`,
`Tally.put`, `Tally.nextPath`, `admitted_numberedPath`.
-/
import MangaPress.Proofs.Files.Opening
import MangaPress.Proofs.Output.Calendar
import MangaPress.Proofs.Output.Numbering
import Mathlib.Logic.Function.Basic

namespace MangaPress.Output

open FileTree

/-! ### Places -/

/-- The names of the folder of a day below the root. -/
def dayNames (date : Date) : List Text :=
  [date.monthFolder, date.dayFolder]

/-- The names of a numbered folder below the root. -/
def folderNames (date : Date) (n : Nat) : List Text :=
  dayNames date ++ [Text.ofNat n]

/-- The tree with a numbered folder of a day, and with those above it below the root. -/
def withFolder (t : FileTree) (base : Location) (date : Date) (n : Nat) : FileTree :=
  t.openTo base (folderNames date n) 3

@[simp]
theorem length_dayNames (date : Date) : (dayNames date).length = 2 := rfl

@[simp]
theorem length_folderNames (date : Date) (n : Nat) : (folderNames date n).length = 3 := rfl

theorem dayNames_ne_nil (date : Date) : dayNames date ≠ [] := List.cons_ne_nil _ _

variable {root p : Path} {date : Date} {n : Nat} {ns : List Text} {name : Text}

theorem below_join (h : Below root p ns) (hname : Path.IsName name) :
    Below root (Path.join p name) (ns ++ [name]) where
  absolute := (Path.isAbsolute_join p hname.noSlash).trans h.absolute
  names := by rw [Path.names_join_of_isName p hname, h.names, List.append_assoc]

theorem below_dayPath (root : Path) (date : Date) :
    Below root (dayPath root date) (dayNames date) :=
  below_join (below_join (.refl root) date.isName_monthFolder) date.isName_dayFolder

theorem below_numberedPath (root : Path) (date : Date) (n : Nat) :
    Below root (numberedPath root date n) (folderNames date n) :=
  below_join (below_dayPath root date) (isName_ofNat n)

theorem utf8Length_ofNat_le (h : n ≤ maxNumber) : Text.utf8Length (Text.ofNat n) ≤ 20 := by
  have htwenty : (Text.ofNat maxNumber).length = 20 := by decide +kernel
  rw [Text.utf8Length_of_ascii (Text.ascii_ofNat n), ← htwenty]
  exact Text.length_ofNat_le h

theorem plain_dayNames (h : date.InCalendar) : Plain (dayNames date) := by
  have hmonth : Text.utf8Length date.monthFolder ≤ maxNameLength :=
    Nat.le_trans (date.utf8Length_monthFolder_le h) (by decide)
  have hday : Text.utf8Length date.dayFolder ≤ maxNameLength :=
    Nat.le_trans (date.utf8Length_dayFolder_le h) (by decide)
  exact List.forall_mem_cons.mpr ⟨⟨date.isName_monthFolder.ne_up, hmonth⟩,
    List.forall_mem_singleton.mpr ⟨date.isName_dayFolder.ne_up, hday⟩⟩

theorem plain_folderNames (h : date.InCalendar) (hn : n ≤ maxNumber) :
    Plain (folderNames date n) := by
  have hnumber : Text.utf8Length (Text.ofNat n) ≤ maxNameLength :=
    Nat.le_trans (utf8Length_ofNat_le hn) (by decide)
  exact List.forall_mem_append.mpr ⟨plain_dayNames h,
    List.forall_mem_singleton.mpr ⟨(isName_ofNat n).ne_up, hnumber⟩⟩

/-- What is below the folders of days tells the day. -/
theorem dayNames_append_inj {date' : Date} {ns' : List Text}
    (h : dayNames date ++ ns = dayNames date' ++ ns') : date = date' ∧ ns = ns' := by
  obtain ⟨hday, hrest⟩ := List.append_inj h rfl
  obtain ⟨hmonth, hday⟩ := List.cons_eq_cons.mp hday
  exact ⟨Date.eq_of_folders hmonth (List.singleton_inj.mp hday), hrest⟩

theorem take_folderNames {m : Nat} (hm : m ≤ 2) (n : Nat) :
    (folderNames date n).take m = (dayNames date).take m :=
  List.take_append_of_le_length hm

/-- **The folders of different days are at different places.** -/
theorem eq_of_placeFrom_dayPath {date' : Date} {wd : Location}
    (h : placeFrom wd (dayPath root date) = placeFrom wd (dayPath root date')) : date = date' := by
  have hup : ∀ d : Date, ∀ name ∈ dayNames d, name ≠ ['.', '.'] := fun d name hname =>
    (d.isName_folders name hname).ne_up
  rw [(below_dayPath root date).placeFrom (hup date),
    (below_dayPath root date').placeFrom (hup date')] at h
  have hnames := List.append_cancel_left h
  rw [← List.append_nil (dayNames date), ← List.append_nil (dayNames date')] at hnames
  exact (dayNames_append_inj hnames).1

theorem admitted_dayPath (h : Admitted (numberedPath root date n)) :
    Admitted (dayPath root date) := by
  have hsub : (dayPath root date).Sublist (numberedPath root date n) := by
    rcases Path.join_of_noSlash (dayPath root date) (isName_ofNat n).noSlash with ⟨hj, -⟩ | ⟨hj, -⟩
    all_goals
      rw [numberedPath, hj]
      exact List.sublist_append_left _ _
  exact ⟨fun hnul => h.noNul (hsub.mem hnul), dayPath_ne_nil root date,
    Nat.le_trans (Text.utf8Length_le_of_sublist hsub) h.length_le⟩

theorem admitted_numberedPath (hnul : '\x00' ∉ root)
    (hroom : Text.utf8Length root + 35 ≤ maxPathLength) (hdate : date.InCalendar)
    (hn : n ≤ maxNumber) : Admitted (numberedPath root date n) where
  noNul := by
    have hdigit : Text.isDigit '\x00' ≠ true := by decide
    have hmonth : '\x00' ∉ date.monthFolder := fun h => by
      rcases Date.mem_monthFolder h with h | h | h
      · exact hdigit h
      · cases h
      · cases h
    have hday : '\x00' ∉ date.dayFolder := fun h => hdigit (Text.isDigit_of_mem_ofNatPadded h)
    have hnumber : '\x00' ∉ Text.ofNat n := fun h => hdigit (Text.isDigit_of_mem_ofNat h)
    refine Path.not_mem_join (by decide) (isName_ofNat n).noSlash ?_ hnumber
    refine Path.not_mem_join (by decide) date.isName_dayFolder.noSlash ?_ hday
    exact Path.not_mem_join (by decide) date.isName_monthFolder.noSlash hnul hmonth
  ne_nil h := by
    have hnames := (below_numberedPath root date n).names
    rw [h] at hnames
    exact List.append_ne_nil_of_right_ne_nil _ (List.cons_ne_nil _ _) hnames.symm
  length_le := by
    have hmonth := Path.utf8Length_join_le root date.isName_monthFolder.noSlash
    have hday := Path.utf8Length_join_le (Path.join root date.monthFolder)
      date.isName_dayFolder.noSlash
    have hnumber := Path.utf8Length_join_le (dayPath root date) (isName_ofNat n).noSlash
    have hmonthLength := date.utf8Length_monthFolder_le hdate
    have hdayLength := date.utf8Length_dayFolder_le hdate
    have hnumberLength := utf8Length_ofNat_le hn
    rw [← dayPath] at hday
    rw [← numberedPath] at hnumber
    omega

/-! ### The folders of a day -/

/-- After the numbers from 1 to some number comes the next one. -/
theorem numberAfter?_of_numbers {names : List Text} {count : Nat} (hcount : count < maxNumber)
    (h : ∀ name, name ∈ names ↔ ∃ n, 1 ≤ n ∧ n ≤ count ∧ name = Text.ofNat n) :
    numberAfter? names = some (count + 1) := by
  have hle : highestNumber names ≤ count := by
    apply foldl_max_le (Nat.zero_le count)
    intro m hm
    obtain ⟨name, hname, hnumber⟩ := List.mem_filterMap.mp hm
    obtain ⟨n, -, hn, rfl⟩ := (h name).mp hname
    rw [folderNumber?_ofNat (by omega), Option.some.injEq] at hnumber
    omega
  have hge : count ≤ highestNumber names := by
    rcases Nat.eq_zero_or_pos count with rfl | hpos
    · exact Nat.zero_le _
    · have hmem := (h _).mpr ⟨count, hpos, Nat.le_refl count, rfl⟩
      exact le_highestNumber hmem (folderNumber?_ofNat (Nat.le_of_lt hcount))
  exact numberAfter?_eq_some_iff.mpr (by omega)

/-- The root leads to a directory in which the numbered folders of each day are those from 1 to the
count of the day, and in which no file lies higher than in these folders. -/
structure Tally (root : Path) (base : Location) (count : Date → Nat) (t : FileTree) : Prop where
  leads : t.follow (t.origin root) (Path.names root) = .ok (.node base .directory)
  listed : ∀ ns, ns ≠ [] → Listed t (base ++ ns)
  noFile : ∀ ns, ns.length ≤ 3 → ∀ content, t.node? (base ++ ns) ≠ some (.file content)
  folder : ∀ date n, 1 ≤ n → n ≤ count date → ∀ m ≤ 3,
    t.node? (base ++ (folderNames date n).take m) = some .directory
  number : ∀ date name rest, t.node? (base ++ (dayNames date ++ name :: rest)) ≠ none →
    ∃ n, 1 ≤ n ∧ n ≤ count date ∧ name = Text.ofNat n

namespace Tally

variable {base : Location} {count : Date → Nat} {t : FileTree}

/-- No file is on the way from the root to a numbered folder. -/
theorem noFile_take (h : Tally root base count t) (hns : ns.length ≤ 3) (m : Nat)
    (content : Bytes) : t.node? (base ++ ns.take m) ≠ some (.file content) := by
  apply h.noFile
  rw [List.length_take]
  omega

/-- The folder with the next number is new. -/
theorem node?_next (h : Tally root base count t) (date : Date) (rest : List Text) :
    t.node? (base ++ (dayNames date ++ Text.ofNat (count date + 1) :: rest)) = none := by
  by_contra hthere
  obtain ⟨n, -, hn, he⟩ := h.number date _ rest hthere
  rw [Text.ofNat_inj] at he
  omega

/-- The folder of a day lists the numbers up to the count, and is missing at most if there are
none. -/
theorem directoryNames (h : Tally root base count t) (hdate : date.InCalendar)
    (hp : Admitted (dayPath root date)) :
    t.directoryNames (dayPath root date) = .error .notFound ∧ count date = 0 ∨
      ∃ names, t.directoryNames (dayPath root date) = .ok names ∧
        ∀ name, name ∈ names ↔ ∃ n, 1 ≤ n ∧ n ≤ count date ∧ name = Text.ofNat n := by
  have hbelow := below_dayPath root date
  have hfollow : t.follow (t.origin (dayPath root date)) (Path.names (dayPath root date)) =
      t.follow base (dayNames date) := by
    rw [hbelow.origin, hbelow.names, follow_append (dayNames_ne_nil date) h.leads]
  have hzero : ∀ m ≤ 2, t.node? (base ++ (dayNames date).take m) = none → count date = 0 := by
    intro m hm hnone
    by_contra hpos
    have hthere := h.folder date 1 (Nat.le_refl 1) (by omega) m (by omega)
    rw [take_folderNames hm, hnone] at hthere
    cases hthere
  have hshort : (dayNames date).length ≤ 3 := Nat.le_succ 2
  rcases follow_plain (plain_dayNames hdate) (node?_of_follow h.leads)
      (fun m _ => h.noFile_take hshort m) with
    ⟨herror, m, hm, hnone⟩ | ⟨hfound, -⟩
  · left
    rw [← hfollow] at herror
    rw [FileTree.directoryNames, find_of_follow_error hp herror]
    exact ⟨rfl, hzero m (Nat.le_of_lt hm) hnone⟩
  · rw [← hfollow, foundAt] at hfound
    cases hnode : t.node? (base ++ dayNames date) with
    | none =>
      left
      rw [hnode] at hfound
      rw [FileTree.directoryNames, find_of_follow_free hp hfound]
      exact ⟨rfl, hzero 2 (Nat.le_refl 2) hnode⟩
    | some node =>
      cases node with
      | file content => exact absurd hnode (h.noFile _ (by simp) content)
      | directory =>
        right
        rw [hnode] at hfound
        rw [FileTree.directoryNames, find_of_follow_directory hp hfound]
        refine ⟨_, rfl, fun name => ?_⟩
        have hlisted := h.listed (dayNames date ++ [name]) (by simp)
        rw [← List.append_assoc] at hlisted
        rw [mem_directoryNamesAt_iff hlisted, List.append_assoc]
        constructor
        · intro hthere
          exact h.number date name [] (by rw [hthere]; exact Option.some_ne_none _)
        · rintro ⟨n, hpos, hn, rfl⟩
          exact h.folder date n hpos hn 3 (Nat.le_refl 3)

/-- **The next number of a day is one more than the count of the day.** -/
theorem nextNumber (h : Tally root base count t) (hdate : date.InCalendar)
    (hp : Admitted (dayPath root date)) (hcount : count date < maxNumber) :
    nextNumber t (dayPath root date) = .ok (count date + 1) := by
  rcases h.directoryNames hdate hp with ⟨hmissing, hzero⟩ | ⟨names, hlist, hnames⟩
  · rw [Output.nextNumber, hmissing, hzero]
  · rw [Output.nextNumber, hlist]
    dsimp only
    rw [numberAfter?_of_numbers hcount hnames]

/-- **Step**: the folder with the next number is created. -/
theorem grow (h : Tally root base count t) (date : Date) :
    Extends (fun l => ∃ m ≤ 3, l = base ++ (folderNames date (count date + 1)).take m) t
        (withFolder t base date (count date + 1)) ∧
      Tally root base (Function.update count date (count date + 1))
        (withFolder t base date (count date + 1)) := by
  have hbase := node?_of_follow h.leads
  have hway : Extends (fun l => ∃ m ≤ 3, l = base ++ (folderNames date (count date + 1)).take m) t
      (withFolder t base date (count date + 1)) :=
    openTo_extends fun m _ => h.noFile_take (Nat.le_of_eq (length_folderNames ..)) m
  refine ⟨hway, ?leads, ?listed, ?noFile, ?folder, ?number⟩
  case leads =>
    have hdir := hway.node?_of_some hbase
    have horigin : (withFolder t base date (count date + 1)).origin root =
        t.origin root := by
      rw [FileTree.origin, FileTree.origin, hway.workingDirectory]
    rw [horigin]
    exact follow_of_kept hway.keepsDirectories (hdir.trans hbase.symm) h.leads
  case listed =>
    intro ns hns
    exact (h.listed ns hns).openTo (List.append_ne_nil_of_right_ne_nil base hns) base _ 3
  case noFile =>
    intro ns hns
    exact hway.not_file (h.noFile ns hns)
  case folder =>
    intro date' n hpos hn m hm
    by_cases hold : n ≤ count date'
    · exact hway.node?_of_some (h.folder date' n hpos hold m hm)
    · -- The folder is the new one.
      by_cases hdate : date' = date
      · subst hdate
        rw [Function.update_self] at hn
        obtain rfl : n = count date' + 1 := by omega
        exact node?_openTo hbase hm
      · rw [Function.update_of_ne hdate] at hn
        exact absurd hn hold
  case number =>
    intro date' name rest hthere
    rcases hway.node? (base ++ (dayNames date' ++ name :: rest)) with hsame | ⟨⟨m, -, hl⟩, -, -⟩
    · rw [hsame] at hthere
      obtain ⟨n, hpos, hn, hname⟩ := h.number date' name rest hthere
      refine ⟨n, hpos, ?_, hname⟩
      by_cases hdate : date' = date
      · subst hdate
        rw [Function.update_self]
        omega
      · rw [Function.update_of_ne hdate]
        exact hn
    · have hnames := congrArg (· ++ (folderNames date (count date + 1)).drop m)
        (List.append_cancel_left hl)
      simp only [List.take_append_drop, List.append_assoc] at hnames
      obtain ⟨rfl, hlast⟩ := dayNames_append_inj hnames
      have hcount := Function.update_self date' (count date' + 1) count
      exact ⟨count date' + 1, Nat.le_add_left 1 _, Nat.le_of_eq hcount.symm,
        (List.cons_eq_cons.mp hlast).1⟩

/-- **Step**: an image is saved in a numbered folder of a day. -/
theorem put (h : Tally root base count t) {name : Text} (hpos : 1 ≤ n) (hn : n ≤ count date)
    (content : Bytes)
    (hnot : t.node? (base ++ (folderNames date n ++ [name])) ≠ some .directory) :
    Tally root base count (t.put (base ++ (folderNames date n ++ [name])) (.file content)) := by
  have hkeep := keepsDirectories_put hnot (.file content)
  have hbase := node?_of_follow h.leads
  have hapart : ∀ ns, ns.length ≤ 3 →
      base ++ ns ≠ base ++ (folderNames date n ++ [name]) := by
    intro ns hns he
    have hlength := congrArg List.length (List.append_cancel_left he)
    rw [List.length_append, length_folderNames, List.length_singleton] at hlength
    omega
  refine ⟨?leads, ?listed, ?noFile, ?folder, ?number⟩
  case leads =>
    exact follow_of_kept hkeep ((hkeep base hbase).trans hbase.symm) h.leads
  case listed =>
    intro ns hns
    exact (h.listed ns hns).put (List.append_ne_nil_of_right_ne_nil base hns) _ _
  case noFile =>
    intro ns hns
    rw [node?_put_of_ne _ (hapart ns hns)]
    exact h.noFile ns hns
  case folder =>
    intro date' n' hpos' hn' m hm
    exact hkeep _ (h.folder date' n' hpos' hn' m hm)
  case number =>
    intro date' name' rest hthere
    by_cases hl : dayNames date' ++ name' :: rest = folderNames date n ++ [name]
    · rw [folderNames, List.append_assoc] at hl
      obtain ⟨rfl, hlast⟩ := dayNames_append_inj hl
      exact ⟨n, hpos, hn, (List.cons_eq_cons.mp hlast).1⟩
    · rw [node?_put_of_ne _ fun he => hl (List.append_cancel_left he)] at hthere
      exact h.number date' name' rest hthere

/-- The path of the next page of a day, where the directories of the root were created. -/
theorem nextPath {t₀ : FileTree} (h : Tally root base count t) (hdate : date.InCalendar)
    (hp : Admitted (numberedPath root date (count date + 1))) (hcount : count date < maxNumber)
    (hcreated : t₀.createDirectories root = (t, .ok ()))
    (hnumber : Output.nextNumber t₀ (dayPath root date) = .ok (count date + 1))
    (fileName : Text) :
    nextPath t₀ root fileName none date =
      (withFolder t base date (count date + 1),
        .ok (Path.join (numberedPath root date (count date + 1)) fileName)) := by
  have hopened := createDirectories_below hp (below_numberedPath root date _)
    (plain_folderNames hdate hcount) hcreated h.leads
    fun m _ => h.noFile_take (Nat.le_of_eq (length_folderNames ..)) m
  rw [nextPath_of_number hnumber, hopened, length_folderNames]
  rfl

end Tally

end MangaPress.Output
