/-
# Pages that are saved at the same time

Any number of clients save pages of one day without a session. Each of them goes through the steps
of `Output.save`: it lists the folder of the day and chooses the next number, makes the folder with
that number, and writes its image there. Their steps come in any order.

The folder is made in a later step than that in which its number is chosen, and making it succeeds
if it is there already. So clients that list before any of them has made its folder choose the same
number, and of images with the same file name the last one replaces the others
(`interleave_collides`).

What holds in every order is that the file at a path that was given out is an image that was saved
under this path, and that a client which lists after another one has made its folder gets a larger
number, or none. Both follow from what one step can do (`Moves`). There is room for the images here.

Key definitions: `Job`, `Stage`, `Job.work`, `Savers`, `Savers.step`, `Savers.interleave`, `Moves`,
`Savers.Fits`, `Ahead`.
Key theorems: `save_eq_work`, `interleave_collides`, `moves_work`, `Savers.Fits.step`,
`interleave_apart`.
-/
import MangaPress.Proofs.Output.Numbering
import Mathlib.Logic.Function.Basic

namespace MangaPress.Output

open FileTree

/-- An image that is to be saved, and the name of its file. -/
structure Job where
  fileName : Text
  isName : Path.IsName fileName
  image : Image

/-- How far a client is with saving. -/
inductive Stage where
  | idle
  /-- It makes the folder with this number next. -/
  | chosen (n : Nat)
  /-- The folder with this number is there, and it writes the image next. -/
  | opened (n : Nat)
  /-- It has saved the image in the folder with a number, or failed. -/
  | done (result : Except OutputError Nat)
deriving Repr, DecidableEq

/-- The number that a client goes by. -/
def Stage.number? : Stage → Option Nat
  | .chosen n | .opened n | .done (.ok n) => some n
  | .idle | .done (.error _) => none

/-- The number of the folder that a client has made. -/
def Stage.folder? : Stage → Option Nat
  | .opened n | .done (.ok n) => some n
  | .idle | .chosen _ | .done (.error _) => none

namespace Job

/-- The page of a request to the service, answered at a moment. -/
def ofRequest (milliseconds : Int) (image : Image) : Job where
  fileName := image.downloadName milliseconds
  isName := image.isName_downloadName milliseconds
  image

/-- The page that the command saves for a document. -/
def ofCommand (yamlPath : Path) (image : Image) : Job where
  fileName := Command.outputFileName yamlPath image.mimeType
  isName := isName_outputFileName yamlPath image.mimeType
  image

/-- Where the image is saved in the folder with a number. -/
def path (root : Path) (date : Date) (job : Job) (n : Nat) : Path :=
  Path.join (numberedPath root date n) job.fileName

/-- The next step of a client; one that is done rests. -/
def work (files : FileTree) (root : Path) (date : Date) (job : Job) : Stage → FileTree × Stage
  | .idle =>
    match nextNumber files (dayPath root date) with
    | .error e => (files, .done (.error e))
    | .ok n => (files, .chosen n)
  | .chosen n =>
    match files.createDirectories (numberedPath root date n) with
    | (files, .error e) => (files, .done (.error (.createFolder (numberedPath root date n) e)))
    | (files, .ok _) => (files, .opened n)
  | .opened n =>
    let (files, saved) := saveImage files job.image (job.path root date n)
    (files, .done (saved.map fun _ => n))
  | .done result => (files, .done result)

end Job

/-- A client that is alone does in three steps what saving does. -/
theorem save_eq_work (files : FileTree) (root : Path) (date : Date) (job : Job) :
    let listed := job.work files root date .idle
    let made := job.work listed.1 root date listed.2
    let last := job.work made.1 root date made.2
    ∃ result, last.2 = .done result ∧
      save files root job.fileName none date job.image =
        (last.1, result.map (job.path root date)) := by
  unfold save nextPath sessionPath
  dsimp only [Job.work]
  cases hn : nextNumber files (dayPath root date) with
  | error e => exact ⟨_, rfl, rfl⟩
  | ok n =>
    dsimp only [Job.work, Except.map]
    rw [← numberedPath]
    cases hmade : files.createDirectories (numberedPath root date n) with
    | mk made created =>
      cases created with
      | error e => exact ⟨_, rfl, rfl⟩
      | ok _ =>
        dsimp only [Job.work]
        rw [← Job.path]
        cases hsaved : saveImage made job.image (job.path root date n) with
        | mk saved result => cases result <;> exact ⟨_, rfl, rfl⟩

/-- Clients at work in one tree. -/
structure Savers (ι : Type) where
  files : FileTree
  stage : ι → Stage := fun _ => .idle

namespace Savers

variable {ι : Type} [DecidableEq ι]

/-- The next step of a client. -/
def step (jobs : ι → Job) (root : Path) (date : Date) (s : Savers ι) (i : ι) : Savers ι :=
  let (files, stage) := (jobs i).work s.files root date (s.stage i)
  { files, stage := Function.update s.stage i stage }

/-- Steps of clients, in the order in which they are named. -/
def interleave (jobs : ι → Job) (root : Path) (date : Date) (s : Savers ι) (schedule : List ι) :
    Savers ι :=
  schedule.foldl (step jobs root date) s

end Savers

/-! ### What goes wrong -/

/-- Two images. -/
def twoImages (i : Fin 2) : Image where
  mimeType := "image/png"
  data := if i = 0 then "QUJD" else "REVG"

/-- The day on which they are saved. -/
def someDay : Date where
  year := 2025
  month := 11
  day := 2

/-- Two commands save pages of the same document: both list, both make the folder and both write.
They report the same path, and the image of the first one is lost. Two requests whose steps come in
this order save their pages in the same folder as well, whatever their files are called. -/
theorem interleave_collides :
    let turns : List (Fin 2) := [0, 1, 0, 1, 0, 1]
    let jobs := fun i => Job.ofCommand "page.yaml" (twoImages i)
    let s := Savers.interleave jobs "out" someDay { files := {} } turns
    let requests := fun i : Fin 2 => Job.ofRequest i.val (twoImages i)
    let served := Savers.interleave requests "out" someDay { files := {} } turns
    (s.stage 0 = .done (.ok 1) ∧ s.stage 1 = .done (.ok 1) ∧
      (jobs 0).path "out" someDay 1 = (jobs 1).path "out" someDay 1 ∧
      Base64.decode? (jobs 0).image.data = some [65, 66, 67] ∧
      s.files.bytesAt ((jobs 0).path "out" someDay 1) = .ok [68, 69, 70]) ∧
    served.stage 0 = .done (.ok 1) ∧ served.stage 1 = .done (.ok 1) := by
  decide +kernel

/-! ### What a step can do -/

variable {root : Path} {date : Date}

/-- The steps of a client, from tree and stage to tree and stage. -/
inductive Moves (root : Path) (date : Date) (job : Job) :
    FileTree → Stage → FileTree → Stage → Prop where
  | rests {files : FileTree} {result : Except OutputError Nat} :
    Moves root date job files (.done result) files (.done result)
  | fails {files files' : FileTree} {stage : Stage} {e : OutputError}
    (busy : ∀ result, stage ≠ .done result) (keeps : Changes (fun _ => False) files files') :
    Moves root date job files stage files' (.done (.error e))
  | lists {files : FileTree} {n : Nat} (next : nextNumber files (dayPath root date) = .ok n) :
    Moves root date job files .idle files (.chosen n)
  | makes {files files' : FileTree} {n : Nat} (keeps : Changes (fun _ => False) files files')
    (folder : HasFolder files' root date n) :
    Moves root date job files (.chosen n) files' (.opened n)
  | writes {files files' : FileTree} {n : Nat} {bytes : Bytes}
    (decoded : Base64.decode? job.image.data = some bytes)
    (written : files.write (job.path root date n) bytes = (files', .ok ())) :
    Moves root date job files (.opened n) files' (.done (.ok n))

theorem moves_work (files : FileTree) (root : Path) (date : Date) (job : Job) (stage : Stage) :
    Moves root date job files stage (job.work files root date stage).1
      (job.work files root date stage).2 := by
  cases stage with
  | idle =>
    unfold Job.work
    cases hn : nextNumber files (dayPath root date) with
    | error e => exact .fails nofun (.refl _ files)
    | ok n => exact .lists hn
  | chosen n =>
    have hkeeps := (createDirectories_extends files (numberedPath root date n)).changes
      fun _ => False
    unfold Job.work
    dsimp only
    cases hmade : files.createDirectories (numberedPath root date n) with
    | mk made created =>
      rw [hmade] at hkeeps
      cases created with
      | error e => exact .fails nofun hkeeps
      | ok _ => exact .makes hkeeps (hasFolder_of_createDirectories hmade)
  | opened n =>
    unfold Job.work saveImage
    cases hdecoded : Base64.decode? job.image.data with
    | none => exact .fails nofun (.refl _ files)
    | some bytes =>
      dsimp only
      rcases files.write_cases (job.path root date n) with ⟨l, hl⟩ | ⟨e, herror, -⟩
      · have hwritten : files.write (job.path root date n) bytes =
            (files.put l (.file bytes), .ok ()) := hl.write_eq bytes .ample
        rw [hwritten]
        exact .writes hdecoded hwritten
      · rw [herror]
        exact .fails nofun (.refl _ files)
  | done result => exact .rests

namespace Moves

variable {job : Job} {files files' : FileTree} {stage stage' : Stage} {n : Nat}

/-- A step touches no file but the one that it writes. -/
theorem changes (h : Moves root date job files stage files' stage') :
    Changes (fun l => ∃ n, stage = .opened n ∧ stage' = .done (.ok n) ∧
      l = placeFrom files.workingDirectory (job.path root date n)) files files' := by
  cases h with
  | rests => exact .refl _ files
  | fails _ keeps => exact keeps.mono nofun
  | lists _ => exact .refl _ files
  | makes keeps _ => exact keeps.mono nofun
  | @writes _ n bytes _ written =>
    have hchanges := changes_write files (job.path root date n) bytes .ample
    rw [written] at hchanges
    exact hchanges.mono fun l hl => ⟨_, rfl, rfl, hl⟩

/-- A number comes from listing, and stays. -/
theorem of_number? (h : Moves root date job files stage files' stage')
    (hn : stage'.number? = some n) :
    stage.number? = some n ∨ stage = .idle ∧ nextNumber files (dayPath root date) = .ok n := by
  cases h with
  | rests => exact .inl hn
  | fails _ _ => cases hn
  | lists next =>
    cases hn
    exact .inr ⟨rfl, next⟩
  | makes _ _ => exact .inl hn
  | writes _ _ => exact .inl hn

/-- A client that goes by a number goes on to do so, or fails. -/
theorem number?_of_number? (h : Moves root date job files stage files' stage')
    (hn : stage.number? = some n) : stage'.number? = some n ∨ ∃ e, stage' = .done (.error e) := by
  cases h with
  | rests => exact .inl hn
  | fails _ _ => exact .inr ⟨_, rfl⟩
  | lists _ => cases hn
  | makes _ _ => exact .inl hn
  | writes _ _ => exact .inl hn

/-- A client that has its folder has made it before, or in this step. -/
theorem hasFolder (h : Moves root date job files stage files' stage')
    (hn : stage'.folder? = some n) : stage.folder? = some n ∨ HasFolder files' root date n := by
  cases h with
  | rests => exact .inl hn
  | fails _ _ => cases hn
  | lists _ => cases hn
  | makes _ folder =>
    cases hn
    exact .inr folder
  | writes _ _ => exact .inl hn

/-- A client is done once it has written, and stays so. -/
theorem of_done (h : Moves root date job files stage files' (.done (.ok n))) :
    stage = .done (.ok n) ∧ files' = files ∨
      stage = .opened n ∧ ∃ bytes, Base64.decode? job.image.data = some bytes ∧
        files.write (job.path root date n) bytes = (files', .ok ()) := by
  cases h with
  | rests => exact .inl ⟨rfl, rfl⟩
  | writes decoded written => exact .inr ⟨rfl, _, decoded, written⟩

theorem done_of_done {result : Except OutputError Nat}
    (h : Moves root date job files (.done result) files' stage') : stage' = .done result := by
  cases h with
  | rests => rfl
  | fails busy _ => exact absurd rfl (busy _)

end Moves

/-! ### Paths of pages -/

theorem placeFrom_path (wd : Location) (job : Job) (n : Nat) :
    placeFrom wd (job.path root date n) =
      placeFrom wd (dayPath root date) ++ [Text.ofNat n] ++ [job.fileName] := by
  have hnames : Path.names (job.path root date n) =
      Path.names (dayPath root date) ++ [Text.ofNat n] ++ [job.fileName] := by
    rw [Job.path, Path.names_join_of_isName _ job.isName, names_numberedPath]
  have habsolute : Path.isAbsolute (job.path root date n) =
      Path.isAbsolute (dayPath root date) := by
    rw [Job.path, Path.isAbsolute_join _ job.isName.noSlash, numberedPath,
      Path.isAbsolute_join _ (isName_ofNat n).noSlash]
  rw [placeFrom, hnames, habsolute, walk_concat job.isName.ne_up,
    walk_concat (isName_ofNat n).ne_up]
  rfl

/-- Images with the same place have the same folder and file name, and so the same path. -/
theorem path_eq_of_place {wd : Location} {job job' : Job} {n m : Nat}
    (h : placeFrom wd (job.path root date n) = placeFrom wd (job'.path root date m)) :
    n = m ∧ job.fileName = job'.fileName := by
  rw [placeFrom_path, placeFrom_path] at h
  obtain ⟨hfolder, hfile⟩ := List.append_inj' h rfl
  obtain ⟨-, hnumber⟩ := List.append_inj' hfolder rfl
  have hn : some n = some m := by
    rw [← Text.toNat?_ofNat n, ← Text.toNat?_ofNat m, List.singleton_inj.mp hnumber]
  exact ⟨Option.some.inj hn, List.singleton_inj.mp hfile⟩

/-! ### All steps -/

namespace Savers

variable {ι : Type} [DecidableEq ι] {jobs : ι → Job} {s : Savers ι}

theorem stage_step_of_ne {i j : ι} (h : j ≠ i) :
    (s.step jobs root date i).stage j = s.stage j :=
  Function.update_of_ne h _ _

theorem moves_step (jobs : ι → Job) (root : Path) (date : Date) (s : Savers ι) (i : ι) :
    Moves root date (jobs i) s.files (s.stage i) (s.step jobs root date i).files
      ((s.step jobs root date i).stage i) := by
  have hstage : (s.step jobs root date i).stage i =
      ((jobs i).work s.files root date (s.stage i)).2 := Function.update_self _ _ _
  rw [hstage]
  exact moves_work s.files root date (jobs i) (s.stage i)

theorem interleave_append (s : Savers ι) (earlier later : List ι) :
    s.interleave jobs root date (earlier ++ later) =
      (s.interleave jobs root date earlier).interleave jobs root date later :=
  List.foldl_append

/-- **Run**: what every step keeps, every schedule keeps. -/
theorem interleave_keeps {P : Savers ι → Prop}
    (hstep : ∀ s i, P s → P (step jobs root date s i)) (schedule : List ι) (h : P s) :
    P (interleave jobs root date s schedule) := by
  induction schedule generalizing s with
  | nil => exact h
  | cons i schedule ih => exact ih (hstep s i h)

/-- What is left at the path of an image is an image that was saved there. -/
def Holds (jobs : ι → Job) (root : Path) (date : Date) (s : Savers ι) (i : ι) (n : Nat) : Prop :=
  ∃ j bytes, s.stage j = .done (.ok n) ∧ (jobs j).fileName = (jobs i).fileName ∧
    Base64.decode? (jobs j).image.data = some bytes ∧
    s.files.bytesAt ((jobs i).path root date n) = .ok bytes

/-- Numbers are not too large, the folders that were made are there, and so are saved images, unless
another one was saved under the same path. -/
structure Fits (jobs : ι → Job) (root : Path) (date : Date) (s : Savers ι) : Prop where
  number : ∀ i n, (s.stage i).number? = some n → n ≤ maxNumber
  folder : ∀ i n, (s.stage i).folder? = some n → HasFolder s.files root date n
  image : ∀ i n, s.stage i = .done (.ok n) → Holds jobs root date s i n

omit [DecidableEq ι] in
theorem fits_start (jobs : ι → Job) (root : Path) (date : Date) (files : FileTree) :
    Fits jobs root date { files } :=
  ⟨nofun, nofun, nofun⟩

/-- An image stays, or is replaced by the one that is written in its place. -/
theorem Holds.step {j : ι} {n : Nat} (h : Holds jobs root date s j n) (i : ι) :
    Holds jobs root date (s.step jobs root date i) j n := by
  obtain ⟨k, bytes, hk, hname, hdecoded, hbytes⟩ := h
  have hmoves := moves_step jobs root date s i
  have hdone : (s.step jobs root date i).stage k = .done (.ok n) := by
    by_cases hki : k = i
    · subst hki
      rw [hk] at hmoves
      exact hmoves.done_of_done
    · rw [stage_step_of_ne hki, hk]
  by_cases hplace : ∃ m, s.stage i = .opened m ∧
      (s.step jobs root date i).stage i = .done (.ok m) ∧
      placeFrom s.files.workingDirectory ((jobs j).path root date n) =
        placeFrom s.files.workingDirectory ((jobs i).path root date m)
  · -- The file is the one that is written, so what it holds now is the image of the writer.
    obtain ⟨m, hopened, hwritten, hsame⟩ := hplace
    obtain ⟨rfl, hfile⟩ := path_eq_of_place hsame
    rw [hwritten] at hmoves
    rcases hmoves.of_done with ⟨hrested, -⟩ | ⟨-, new, hnew, hwrite⟩
    · cases hopened.symm.trans hrested
    · refine ⟨i, new, hwritten, hfile.symm, hnew, ?_⟩
      rw [Job.path, hfile]
      exact bytesAt_write hwrite
  · refine ⟨k, bytes, hdone, hname, hdecoded, hmoves.changes.bytesAt ?_ hbytes⟩
    exact fun ⟨m, hopened, hwritten, hl⟩ => hplace ⟨m, hopened, hwritten, hl⟩

/-- **Step**: whichever client goes on. -/
theorem Fits.step (h : Fits jobs root date s) (i : ι) :
    Fits jobs root date (s.step jobs root date i) := by
  have hmoves := moves_step jobs root date s i
  refine ⟨fun j n hn => ?_, fun j n hn => ?_, fun j n hn => ?_⟩
  · by_cases hji : j = i
    · subst hji
      rcases hmoves.of_number? hn with hold | ⟨-, hnext⟩
      · exact h.number j n hold
      · exact nextNumber_le hnext
    · rw [stage_step_of_ne hji] at hn
      exact h.number j n hn
  · by_cases hji : j = i
    · subst hji
      rcases hmoves.hasFolder hn with hold | hnew
      · exact (h.folder j n hold).of_changes hmoves.changes
      · exact hnew
    · rw [stage_step_of_ne hji] at hn
      exact (h.folder j n hn).of_changes hmoves.changes
  · by_cases hji : j = i
    · subst hji
      have hwrites := hmoves
      rw [hn] at hwrites
      rcases hwrites.of_done with ⟨hold, -⟩ | ⟨-, bytes, hdecoded, hwrite⟩
      · exact (h.image j n hold).step j
      · exact ⟨j, bytes, hn, rfl, hdecoded, bytesAt_write hwrite⟩
    · rw [stage_step_of_ne hji] at hn
      exact (h.image j n hn).step i

theorem fits_interleave (jobs : ι → Job) (root : Path) (date : Date) (files : FileTree)
    (schedule : List ι) :
    Fits jobs root date (Savers.interleave jobs root date { files } schedule) :=
  interleave_keeps (fun _ i h => h.step i) schedule (fits_start jobs root date files)

/-- A client that has its number keeps it or fails. -/
theorem number?_interleave (jobs : ι → Job) (root : Path) (date : Date) {i : ι} {n : Nat}
    (hn : (s.stage i).number? = some n) (schedule : List ι) :
    ((s.interleave jobs root date schedule).stage i).number? = some n ∨
      ∃ e, (s.interleave jobs root date schedule).stage i = .done (.error e) := by
  have hstep : ∀ (s : Savers ι) (j : ι),
      ((s.stage i).number? = some n ∨ ∃ e, s.stage i = .done (.error e)) →
      ((s.step jobs root date j).stage i).number? = some n ∨
        ∃ e, (s.step jobs root date j).stage i = .done (.error e) := by
    intro s j h
    by_cases hij : i = j
    · subst hij
      have hmoves := moves_step jobs root date s i
      rcases h with h | ⟨e, he⟩
      · exact hmoves.number?_of_number? h
      · rw [he] at hmoves
        exact .inr ⟨e, hmoves.done_of_done⟩
    · rw [stage_step_of_ne hij]
      exact h
  exact interleave_keeps hstep schedule (.inl hn)

/-- A client that lists while a folder is there gets a larger number. -/
theorem lt_interleave {j : ι} {n : Nat} (hfolder : HasFolder s.files root date n)
    (hn : n ≤ maxNumber) (hidle : s.stage j = .idle) (schedule : List ι) {m : Nat}
    (hm : ((s.interleave jobs root date schedule).stage j).number? = some m) : n < m := by
  have hstart : HasFolder s.files root date n ∧
      ∀ m, (s.stage j).number? = some m → n < m := by
    refine ⟨hfolder, fun m hm => ?_⟩
    rw [hidle] at hm
    cases hm
  have hstep : ∀ (s : Savers ι) (i : ι),
      (HasFolder s.files root date n ∧ ∀ m, (s.stage j).number? = some m → n < m) →
      HasFolder (s.step jobs root date i).files root date n ∧
        ∀ m, ((s.step jobs root date i).stage j).number? = some m → n < m := by
    rintro s i ⟨hthere, hlarger⟩
    have hmoves := moves_step jobs root date s i
    refine ⟨hthere.of_changes hmoves.changes, fun m hm => ?_⟩
    by_cases hji : j = i
    · subst hji
      rcases hmoves.of_number? hm with hold | ⟨-, hnext⟩
      · exact hlarger m hold
      · exact lt_of_nextNumber hthere hn hnext
    · rw [stage_step_of_ne hji] at hm
      exact hlarger m hm
  exact (interleave_keeps hstep schedule hstart).2 m hm

end Savers

/-! ### Clients one after another -/

variable {ι : Type} [DecidableEq ι]

/-- At some moment of a schedule the first client has made its folder and the second one has not
listed yet. -/
def Ahead (jobs : ι → Job) (root : Path) (date : Date) (files : FileTree) (schedule : List ι)
    (i j : ι) : Prop :=
  ∃ earlier later, schedule = earlier ++ later ∧
    ((Savers.interleave jobs root date { files } earlier).stage i).folder?.isSome = true ∧
    (Savers.interleave jobs root date { files } earlier).stage j = .idle

theorem number?_of_folder? {stage : Stage} {n : Nat} (h : stage.folder? = some n) :
    stage.number? = some n := by
  cases stage with
  | idle => cases h
  | chosen _ => cases h
  | opened m => exact h
  | done result =>
    cases result with
    | error e => cases h
    | ok m => exact h

/-- A client that is ahead of another one has a smaller number. -/
theorem Ahead.lt {jobs : ι → Job} {files : FileTree} {schedule : List ι} {i j : ι}
    (h : Ahead jobs root date files schedule i j) {n m : Nat}
    (hn : (Savers.interleave jobs root date { files } schedule).stage i = .done (.ok n))
    (hm : (Savers.interleave jobs root date { files } schedule).stage j = .done (.ok m)) :
    n < m := by
  obtain ⟨earlier, later, rfl, hfolder, hidle⟩ := h
  obtain ⟨k, hk⟩ := Option.isSome_iff_exists.mp hfolder
  have hfits := Savers.fits_interleave jobs root date files earlier
  have hnumber := number?_of_folder? hk
  rw [Savers.interleave_append] at hn hm
  obtain rfl : k = n := by
    rcases Savers.number?_interleave jobs root date hnumber later with
      hsame | ⟨e, he⟩
    · rw [hn] at hsame
      exact (Option.some.inj hsame).symm
    · cases hn.symm.trans he
  have hlast : ((Savers.interleave jobs root date
      (Savers.interleave jobs root date { files } earlier) later).stage j).number? = some m := by
    rw [hm]
    rfl
  exact Savers.lt_interleave (hfits.folder i k hk) (hfits.number i k hnumber) hidle later hlast

/-- **What pages saved at the same time have to themselves.** In whatever order the steps of any
number of clients come, in any tree: the file at a path that a client reports is an image that was
saved under this path. A client that lists after another one has made its folder reports a larger number if
it succeeds. So a client that is ahead of, or behind, every other one that succeeds has its folder to
itself, and its own image is there in the end. -/
theorem interleave_apart (jobs : ι → Job) (root : Path) (date : Date) (files : FileTree)
    (schedule : List ι) :
    let s := Savers.interleave jobs root date { files } schedule
    (∀ i n, s.stage i = .done (.ok n) →
      ∃ j bytes, s.stage j = .done (.ok n) ∧ (jobs j).fileName = (jobs i).fileName ∧
        Base64.decode? (jobs j).image.data = some bytes ∧
        s.files.bytesAt ((jobs i).path root date n) = .ok bytes) ∧
    (∀ i j n m, Ahead jobs root date files schedule i j → s.stage i = .done (.ok n) →
      s.stage j = .done (.ok m) → n < m) ∧
    ∀ i n, s.stage i = .done (.ok n) →
      (∀ j m, j ≠ i → s.stage j = .done (.ok m) →
        Ahead jobs root date files schedule i j ∨ Ahead jobs root date files schedule j i) →
      (∀ j, s.stage j = .done (.ok n) → j = i) ∧
      ∃ bytes, Base64.decode? (jobs i).image.data = some bytes ∧
        s.files.bytesAt ((jobs i).path root date n) = .ok bytes := by
  intro s
  have hfits := Savers.fits_interleave jobs root date files schedule
  refine ⟨hfits.image, fun i j n m hahead => hahead.lt, fun i n hi hordered => ?_⟩
  have halone : ∀ j, s.stage j = .done (.ok n) → j = i := by
    intro j hj
    by_contra hne
    rcases hordered j n hne hj with hahead | hahead
    · exact Nat.lt_irrefl n (hahead.lt hi hj)
    · exact Nat.lt_irrefl n (hahead.lt hj hi)
  obtain ⟨j, bytes, hj, -, hdecoded, hbytes⟩ := hfits.image i n hi
  rw [halone j hj] at hdecoded
  exact ⟨halone, bytes, hdecoded, hbytes⟩

end MangaPress.Output
