/-
# The numbers of pages one after another

Paths for pages of any days are asked for without a session, one after another, and images are
saved to some of them. Where the root is empty at first, each day counts the calls for it
(`tally_after`). So the next page of the day gets the next number, whatever was done for other days,
and its folder is new, so that nothing is replaced.

Key definitions: `Call`, `Call.perform`, `after`, `Fresh`, `Fits`.
Key theorems: `Tally.perform`, `tally_after`, `fresh_of_empty`, `fresh_of_absent`, `fits_of_length`,
`run_numbers_days`.
-/
import MangaPress.Proofs.Output.Tally
import Mathlib.Data.List.Induction

namespace MangaPress.Output

open FileTree

/-- A page of a day for which a path is asked, and the image that is then saved there, if any, as far
as there is room for it. -/
structure Call where
  date : Date
  inCalendar : date.InCalendar
  fileName : Text
  isName : Path.IsName fileName
  image? : Option Image
  room : Room := .ample

/-- Asks for the path, and saves the image there; the path is given whether or not it can be. -/
def Call.perform (c : Call) (root : Path) (files : FileTree) :
    FileTree × Except OutputError Path :=
  match nextPath files root c.fileName none c.date with
  | (files, .error e) => (files, .error e)
  | (files, .ok path) =>
    match c.image? with
    | none => (files, .ok path)
    | some image => ((saveImage files image path c.room).1, .ok path)

/-- What calls one after another leave behind. -/
def after (root : Path) (files : FileTree) (calls : List Call) : FileTree :=
  calls.foldl (fun files c => (c.perform root files).1) files

/-- How many of the calls are for the day. -/
def callsOn (date : Date) (calls : List Call) : Nat :=
  (calls.map Call.date).count date

/-! ### One call -/

variable {root : Path} {date : Date}

/-- To save an image is to put a file at the path, or to do nothing. -/
theorem saveImage_cases (files : FileTree) (image : Image) (path : Path) (room : Room) :
    (saveImage files image path room).1 = files ∨
      ∃ content l, files.OpensAt path l ∧
        (saveImage files image path room).1 = files.put l (.file content) := by
  unfold saveImage
  cases Base64.decode? image.data with
  | none => exact .inl rfl
  | some bytes =>
    dsimp only
    rcases files.write_cases path with ⟨l, hl⟩ | ⟨e, herror, -⟩
    · rw [hl.write_eq]
      exact .inr ⟨room.part bytes, l, hl, rfl⟩
    · rw [herror]
      exact .inl rfl

namespace Tally

variable {base : Location} {count : Date → Nat} {t : FileTree} {n : Nat} {name : Text}

theorem placeFrom_page (h : Tally root base count t) (hdate : date.InCalendar) (hn : n ≤ maxNumber)
    (hname : Path.IsName name) :
    placeFrom t.workingDirectory (Path.join (numberedPath root date n) name) =
      base ++ (folderNames date n ++ [name]) := by
  have hplain := plain_folderNames hdate hn
  have hroot : base = placeFrom t.workingDirectory root := location_of_follow h.leads
  rw [hroot]
  apply (below_join (below_numberedPath root date n) hname).placeFrom
  exact List.forall_mem_append.mpr
    ⟨fun other hother => (hplain other hother).1, List.forall_mem_singleton.mpr hname.ne_up⟩

/-- **Step**: saving an image in a numbered folder touches the place of its file at most, and counts
for nothing. -/
theorem save (h : Tally root base count t) (hdate : date.InCalendar) (hpos : 1 ≤ n)
    (hn : n ≤ count date) (hmax : n ≤ maxNumber) (hname : Path.IsName name) (image : Image)
    (room : Room) :
    Tally root base count
        (saveImage t image (Path.join (numberedPath root date n) name) room).1 ∧
      Changes (· = base ++ (folderNames date n ++ [name])) t
        (saveImage t image (Path.join (numberedPath root date n) name) room).1 := by
  rcases saveImage_cases t image (Path.join (numberedPath root date n) name) room with
    hsame | ⟨content, l, hl, hput⟩
  · rw [hsame]
    exact ⟨h, .refl _ t⟩
  · have hplace : l = base ++ (folderNames date n ++ [name]) :=
      hl.eq_placeFrom.trans (h.placeFrom_page hdate hmax hname)
    have hchanges := changes_put hl.ne_nil hl.node?_ne content
    have hnot := hl.node?_ne
    rw [hput]
    rw [hplace] at hchanges hnot ⊢
    exact ⟨h.put hpos hn content hnot, hchanges⟩

/-- **Step**: a call gives the path with the next number of its day, and loses nothing. -/
theorem perform (h : Tally root base count t) (c : Call)
    (hp : Admitted (numberedPath root c.date (count c.date + 1)))
    (hcount : count c.date < maxNumber) :
    (c.perform root t).2 =
        .ok (Path.join (numberedPath root c.date (count c.date + 1)) c.fileName) ∧
      Tally root base (Function.update count c.date (count c.date + 1)) (c.perform root t).1 ∧
      ∀ l n, t.node? l = some n → (c.perform root t).1.node? l = some n := by
  have hthere :=
    createDirectories_of_leads hp (below_numberedPath root c.date (count c.date + 1)) h.leads
  have hnumber := h.nextNumber c.inCalendar (admitted_dayPath hp) hcount
  have hnext := h.nextPath c.inCalendar hp hcount hthere hnumber c.fileName
  obtain ⟨hway, hgrown⟩ := h.grow c.date
  generalize withFolder t base c.date (count c.date + 1) = opened at hnext hway hgrown
  have hkept : ∀ l n, t.node? l = some n → opened.node? l = some n := fun l n => hway.node?_of_some
  unfold Call.perform
  rw [hnext]
  dsimp only
  cases c.image? with
  | none => exact ⟨rfl, hgrown, hkept⟩
  | some image =>
    have hlast : count c.date + 1 ≤ Function.update count c.date (count c.date + 1) c.date :=
      Nat.le_of_eq (Function.update_self c.date (count c.date + 1) count).symm
    obtain ⟨hsaved, hchanges⟩ :=
      hgrown.save c.inCalendar (Nat.le_add_left 1 _) hlast hcount c.isName image c.room
    refine ⟨rfl, hsaved, fun l n hl => hchanges.node?_of_untouched ?_ (hkept l n hl)⟩
    -- Nothing was at the place of the file, for its folder is new.
    rintro rfl
    rw [folderNames, List.append_assoc] at hl
    cases hl.symm.trans (h.node?_next c.date [c.fileName])

end Tally

/-! ### Runs -/

/-- The directory of the root is there or can be created, and nothing is in it. -/
structure Fresh (files : FileTree) (root : Path) : Prop where
  created : (files.createDirectories root).2 = .ok ()
  directory : (files.createDirectories root).1.node? (placeFrom files.workingDirectory root) =
    some .directory
  empty : ∀ ns, ns ≠ [] →
    (files.createDirectories root).1.node? (placeFrom files.workingDirectory root ++ ns) = none

/-- The calls are at most as many as the numbers of 64 bits from 1 on, and the path of each folder
that they need is one that can be looked up. -/
structure Fits (root : Path) (calls : List Call) : Prop where
  length_le : calls.length ≤ maxNumber
  admitted : ∀ c ∈ calls, ∀ n ≤ callsOn c.date calls, Admitted (numberedPath root c.date n)

theorem Fits.sublist {calls calls' : List Call} (h : Fits root calls) (hs : calls'.Sublist calls) :
    Fits root calls' where
  length_le := Nat.le_trans hs.length_le h.length_le
  admitted c hc n hn :=
    h.admitted c (hs.subset hc) n (Nat.le_trans hn ((hs.map Call.date).count_le c.date))

theorem callsOn_le (date : Date) (calls : List Call) : callsOn date calls ≤ calls.length := by
  rw [callsOn, ← List.length_map Call.date]
  exact List.count_le_length

theorem callsOn_filter (date : Date) (calls : List Call) :
    callsOn date (calls.filter fun c => c.date = date) = callsOn date calls := by
  have hmap : (calls.filter fun c => c.date = date).map Call.date =
      (calls.map Call.date).filter fun d => d = date := by
    rw [List.filter_map]
    rfl
  rw [callsOn, hmap]
  exact List.count_filter (p := fun d => decide (d = date)) (decide_eq_true rfl)

theorem callsOn_concat (calls : List Call) (c : Call) :
    (callsOn · (calls ++ [c])) =
      Function.update (callsOn · calls) c.date (callsOn c.date calls + 1) := by
  funext date
  have hcount : callsOn date (calls ++ [c]) = callsOn date calls + [c.date].count date := by
    rw [callsOn, List.map_append, List.count_append]
    rfl
  by_cases hdate : date = c.date
  · subst hdate
    rw [Function.update_self, hcount, List.count_singleton_self]
  · have hnot : ¬ (c.date == date) = true := by simpa using Ne.symm hdate
    rw [Function.update_of_ne hdate, hcount, List.count_singleton, if_neg hnot]
    rfl

/-- What the next call needs of the calls before it. -/
theorem Fits.next {earlier : List Call} {c : Call} (h : Fits root (earlier ++ [c])) :
    Admitted (numberedPath root c.date (callsOn c.date earlier + 1)) ∧
      callsOn c.date earlier < maxNumber := by
  constructor
  · apply h.admitted c (by simp)
    have hnext := congrFun (callsOn_concat earlier c) c.date
    rw [Function.update_self] at hnext
    exact Nat.le_of_eq hnext.symm
  · have hle := callsOn_le c.date earlier
    have hlength := h.length_le
    rw [List.length_append, List.length_singleton] at hlength
    omega

theorem after_concat (root : Path) (files : FileTree) (earlier : List Call) (c : Call) :
    after root files (earlier ++ [c]) = (c.perform root (after root files earlier)).1 := by
  rw [after, List.foldl_append]
  rfl

/-- **Run**: after any calls the folders of a day are as many as the calls for it. -/
theorem tally_after {base : Location} {t : FileTree} (h : Tally root base (fun _ => 0) t)
    {calls : List Call} (hfits : Fits root calls) :
    Tally root base (callsOn · calls) (after root t calls) := by
  induction calls using List.reverseRecOn with
  | nil => exact h
  | append_singleton earlier c ih =>
    obtain ⟨hp, hcount⟩ := hfits.next
    have hearlier := ih (hfits.sublist (List.sublist_append_left earlier [c]))
    rw [after_concat, callsOn_concat]
    exact (hearlier.perform c hp hcount).2.1

namespace Fresh

variable {files : FileTree}

theorem createDirectories_eq (h : Fresh files root) :
    files.createDirectories root = ((files.createDirectories root).1, .ok ()) :=
  Prod.ext rfl h.created

theorem leads (h : Fresh files root) :
    (files.createDirectories root).1.follow ((files.createDirectories root).1.origin root)
      (Path.names root) = .ok (.node (placeFrom files.workingDirectory root) .directory) := by
  have hdir := h.directory
  by_cases hnames : Path.names root = []
  · have hplace : placeFrom files.workingDirectory root =
        (files.createDirectories root).1.origin root := by
      rw [placeFrom, hnames, origin, (createDirectories_extends files root).workingDirectory]
      rfl
    rw [hplace] at hdir ⊢
    rw [hnames]
    exact follow_nil_eq_ok_iff.mpr ⟨_, hdir, rfl⟩
  · exact follow_of_createDirectories hnames h.createDirectories_eq

theorem tally (h : Fresh files root) :
    Tally root (placeFrom files.workingDirectory root) (fun _ => 0)
      (files.createDirectories root).1 where
  leads := h.leads
  listed ns hns := listed_of_free (h.empty ns hns)
  noFile ns _ content := by
    by_cases hns : ns = []
    · rw [hns, List.append_nil, h.directory]
      simp
    · rw [h.empty ns hns]
      simp
  folder date n hpos hn := absurd (Nat.le_trans hpos hn) (by decide)
  number date name rest hthere :=
    absurd (h.empty _ (List.append_ne_nil_of_right_ne_nil _ (List.cons_ne_nil _ _))) hthere

/-- The first number of a day is the same before the root is created. -/
theorem nextNumber (h : Fresh files root) (hdate : date.InCalendar)
    (hp : Admitted (dayPath root date)) : nextNumber files (dayPath root date) = .ok 1 := by
  have hbelow := below_dayPath root date
  have hlength : (Path.names root).length ≤ (Path.names (dayPath root date)).length := by
    rw [hbelow.names, List.length_append]
    exact Nat.le_add_right _ _
  have hcreated := (createDirectoriesTo_of_below hbelow files).trans h.createDirectories_eq
  rcases createDirectoriesTo_cases hp hlength hcreated with hsame | hmissing
  · have hopened := h.tally.nextNumber hdate hp (by decide)
    rwa [hsame] at hopened
  · have herror := hmissing (dayNames date) (dayNames_ne_nil date)
    rw [hbelow.names, List.take_left, ← hbelow.names] at herror
    rw [Output.nextNumber, directoryNames, find_of_follow_error hp herror]

/-- The first call may create the root by itself. -/
theorem perform_eq (h : Fresh files root) (c : Call) (hp : Admitted (numberedPath root c.date 1)) :
    c.perform root files = c.perform root (files.createDirectories root).1 := by
  have hday := admitted_dayPath hp
  have hfirst := h.nextNumber c.inCalendar hday
  have hnumber := h.tally.nextNumber c.inCalendar hday (by decide)
  have hthere := createDirectories_of_leads hp (below_numberedPath root c.date 1) h.leads
  unfold Call.perform
  rw [h.tally.nextPath c.inCalendar hp (by decide) h.createDirectories_eq hfirst,
    h.tally.nextPath c.inCalendar hp (by decide) hthere hnumber]

theorem after_eq (h : Fresh files root) {calls : List Call} (hfits : Fits root calls)
    (hne : calls ≠ []) :
    after root files calls = after root (files.createDirectories root).1 calls := by
  obtain ⟨c, rest, rfl⟩ := List.exists_cons_of_ne_nil hne
  have hfirst : Fits root ([] ++ [c]) :=
    hfits.sublist (List.cons_sublist_cons.mpr (List.nil_sublist rest))
  rw [after, after, List.foldl_cons, List.foldl_cons, h.perform_eq c hfirst.next.1]

/-- A call gets the number after the calls for its day before it, and loses nothing. -/
theorem perform_after (h : Fresh files root) {earlier : List Call} {c : Call}
    (hfits : Fits root (earlier ++ [c])) :
    (c.perform root (after root files earlier)).2 =
        .ok (Path.join (numberedPath root c.date (callsOn c.date earlier + 1)) c.fileName) ∧
      ∀ l n, (after root files earlier).node? l = some n →
        (c.perform root (after root files earlier)).1.node? l = some n := by
  obtain ⟨hp, hcount⟩ := hfits.next
  have hearlier := hfits.sublist (List.sublist_append_left earlier [c])
  obtain ⟨hpath, -, hkept⟩ := (tally_after h.tally hearlier).perform c hp hcount
  cases earlier with
  | nil =>
    have hsame : c.perform root (after root files []) =
        c.perform root (after root (files.createDirectories root).1 []) := h.perform_eq c hp
    have hroot := createDirectories_extends files root
    rw [hsame]
    exact ⟨hpath, fun l n hl => hkept l n (hroot.node?_of_some hl)⟩
  | cons e rest =>
    rw [h.after_eq hearlier (List.cons_ne_nil e rest)]
    exact ⟨hpath, hkept⟩

end Fresh

/-- An empty directory is fresh. -/
theorem fresh_of_empty {files : FileTree} (hdir : files.isDirectory root = true)
    (hempty : ∀ ns, ns ≠ [] → files.node? (placeFrom files.workingDirectory root ++ ns) = none) :
    Fresh files root := by
  obtain ⟨l, hl⟩ := isDirectory_eq_true_iff.mp hdir
  have hplace : l = placeFrom files.workingDirectory root := location_of_find hl
  obtain ⟨hp, hfollow, -⟩ := find_eq_ok_iff.mp hl
  have hopened : files.createDirectories root = (files, .ok ()) :=
    createDirectories_of_leads hp (.refl root) hfollow
  have hnode := node?_of_follow hfollow
  rw [hplace] at hnode
  refine ⟨?_, ?_, ?_⟩
  · rw [hopened]
  · rw [hopened]
    exact hnode
  · rw [hopened]
    exact hempty

/-- A root is fresh where nothing is, if directories can be created there. -/
theorem fresh_of_absent {files : FileTree} (hp : Admitted root) (hplain : Plain (Path.names root))
    (horigin : files.node? (files.origin root) = some .directory)
    (hfile : ∀ m < (Path.names root).length, ∀ content,
      files.node? (files.above root m) ≠ some (.file content))
    (habsent : ∀ ns, files.node? (placeFrom files.workingDirectory root ++ ns) = none) :
    Fresh files root := by
  have hplace : placeFrom files.workingDirectory root =
      files.above root (Path.names root).length := by
    rw [above, List.take_length]
    exact walk_of_plain (fun name hname => (hplain name hname).1) _
  rw [hplace] at habsent
  have hway : ∀ m ≤ (Path.names root).length, ∀ content,
      files.node? (files.above root m) ≠ some (.file content) := by
    intro m hm content
    rcases Nat.lt_or_eq_of_le hm with hlt | rfl
    · exact hfile m hlt content
    · have hfree := habsent []
      rw [List.append_nil] at hfree
      rw [hfree]
      simp
  obtain ⟨opened, hcreated, hopened⟩ :=
    createDirectoriesTo_of_plain hp hplain horigin (Nat.le_refl _) hway
  rw [← createDirectories] at hcreated
  refine ⟨?_, ?_, ?_⟩
  · rw [hcreated]
  · rw [hcreated, hplace]
    exact hopened.directory _ (Nat.le_refl _)
  · intro ns hns
    rw [hcreated, hplace, hopened.frame, habsent]
    intro m hm he
    have hlength := congrArg List.length he
    have hpos := List.length_pos_iff.mpr hns
    rw [above, above, List.append_assoc, List.length_append, List.length_append,
      List.length_append, List.length_take, List.length_take] at hlength
    omega

/-- A root with room for the names of all days and numbers fits as many calls as there are
numbers. -/
theorem fits_of_length {calls : List Call} (hnul : '\x00' ∉ root)
    (hroom : Text.utf8Length root + 35 ≤ maxPathLength) (hlength : calls.length ≤ maxNumber) :
    Fits root calls := by
  refine ⟨hlength, fun c _ n hn => admitted_numberedPath hnul hroom c.inCalendar ?_⟩
  exact Nat.le_trans hn (Nat.le_trans (callsOn_le c.date calls) hlength)

/-- **Pages without a session over whole runs.** Where the root is an empty directory, or one that
can be created, paths are asked for any pages of any days, in any order, and some of the images are
saved. Then every call succeeds, and it gives the path in the folder of its day whose number is one
more than the calls for this day before it. That is the answer that it gives after the calls for its
own day alone. It leaves everything as it is that was there before it. The folders of different days
are different, and at different places. -/
theorem run_numbers_days {files : FileTree} {root : Path} {calls : List Call}
    (hfresh : Fresh files root) (hfits : Fits root calls) :
    (∀ earlier c later, calls = earlier ++ c :: later →
      (c.perform root (after root files earlier)).2 =
          .ok (Path.join (numberedPath root c.date (callsOn c.date earlier + 1)) c.fileName) ∧
        (c.perform root (after root files (earlier.filter fun e => e.date = c.date))).2 =
          (c.perform root (after root files earlier)).2 ∧
        ∀ l n, (after root files earlier).node? l = some n →
          (c.perform root (after root files earlier)).1.node? l = some n) ∧
    ∀ d d' : Date, d ≠ d' → dayPath root d ≠ dayPath root d' ∧
      placeFrom files.workingDirectory (dayPath root d) ≠
        placeFrom files.workingDirectory (dayPath root d') := by
  constructor
  · rintro earlier c later rfl
    have hsub : (earlier ++ [c]).Sublist (earlier ++ c :: later) :=
      (List.Sublist.refl earlier).append (List.cons_sublist_cons.mpr (List.nil_sublist later))
    have hown : ((earlier.filter fun e => e.date = c.date) ++ [c]).Sublist (earlier ++ [c]) :=
      List.filter_sublist.append (List.Sublist.refl [c])
    obtain ⟨hpath, hkept⟩ := hfresh.perform_after (hfits.sublist hsub)
    obtain ⟨halone, -⟩ := hfresh.perform_after (hfits.sublist (hown.trans hsub))
    rw [callsOn_filter] at halone
    exact ⟨hpath, halone.trans hpath.symm, hkept⟩
  · intro d d' hne
    have hplace : placeFrom files.workingDirectory (dayPath root d) ≠
        placeFrom files.workingDirectory (dayPath root d') := fun h =>
      hne (eq_of_placeFrom_dayPath h)
    exact ⟨fun h => hplace (congrArg _ h), hplace⟩

/-- Two pages of one day get the numbers 1 and 2, with a page of a day far off between them. -/
theorem run_of_two_days :
    let november : Call :=
      { date := ⟨2025, 11, 2⟩, inCalendar := by decide, fileName := "page.png",
        isName := ⟨by decide, by decide, by decide, by decide⟩,
        image? := some { mimeType := "image/png", data := "QUJD" } }
    let january : Call :=
      { date := ⟨12026, 1, 31⟩, inCalendar := by decide, fileName := "page.png",
        isName := ⟨by decide, by decide, by decide, by decide⟩, image? := none }
    Fresh {} "out" ∧ Fits "out" [november, january, november] ∧
      (november.perform "out" {}).2 = .ok "out/2025-11/02/1/page.png" ∧
      (january.perform "out" (after "out" {} [november])).2 = .ok "out/+12026-01/31/1/page.png" ∧
      (november.perform "out" (after "out" {} [november, january])).2 =
        .ok "out/2025-11/02/2/page.png" := by
  intro november january
  have hp : Admitted "out" := ⟨by decide, by decide, by decide⟩
  have hnames : Path.names "out" = ["out".toList] := by decide
  have hplain : Plain (Path.names "out") := by
    rw [hnames]
    exact List.forall_mem_singleton.mpr ⟨by decide, by decide⟩
  have hfresh : Fresh {} "out" := by
    refine fresh_of_absent hp hplain rfl (fun m hm content => ?_) fun ns => rfl
    rw [hnames, List.length_singleton, Nat.lt_one_iff] at hm
    subst hm
    exact nofun
  have hfits : Fits "out" [november, january, november] :=
    fits_of_length (by decide) (by decide) (by decide)
  obtain ⟨hcalls, -⟩ := run_numbers_days hfresh hfits
  obtain ⟨hfirst, -⟩ := hcalls [] november [january, november] rfl
  obtain ⟨hother, -⟩ := hcalls [november] january [november] rfl
  obtain ⟨hsecond, -⟩ := hcalls [november, january] november [] rfl
  refine ⟨hfresh, hfits, hfirst.trans ?_, hother.trans ?_, hsecond.trans ?_⟩
  all_goals decide +kernel

end MangaPress.Output
