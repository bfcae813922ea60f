/-
# Pages stay in the folder of their day

A session that is not absolute and names no parent leads from the folder of a day to folders below it:
one for each of its names, so one if it is a name. So does a number. The page lies directly in the last
of these folders, and the directories that are created for it lie below the root, but for those on the
way to a root that is not there yet.

Key definition: `Output.IsPageFile`.
Key theorems: `Output.added_of_extends`, `Output.nextPath_stays_in_day`.
-/
import MangaPress.Proofs.Output.Highest
import MangaPress.Proofs.Output.Tally

namespace MangaPress.Output

open FileTree

variable {files files' : FileTree} {root folder path : Path} {fileName : Text}
  {date : Date}

/-- The names that files of pages have: that of a download, and that after the document. -/
inductive IsPageFile : Text → Prop where
  | download (image : Image) (milliseconds : Int) : IsPageFile (image.downloadName milliseconds)
  | generated (yamlPath : Path) (mimeType : Text) :
    IsPageFile (Command.outputFileName yamlPath mimeType)

theorem IsPageFile.isName (h : IsPageFile fileName) : Path.IsName fileName := by
  cases h with
  | download image milliseconds => exact image.isName_downloadName milliseconds
  | generated yamlPath mimeType => exact isName_outputFileName yamlPath mimeType

/-- Where directories are added on the way to a path below the root, they are added below it, or on
the way to a root that is no directory yet. -/
theorem added_of_extends {p : Path} {ns : List Text} (hbelow : Below root p ns)
    (hup : ∀ name ∈ ns, name ≠ ['.', '.'])
    (h : Extends (Along files.workingDirectory p (Path.names p).length) files files')
    {l : Location} (hl : files'.node? l ≠ files.node? l) :
    files.node? l = none ∧ files'.node? l = some .directory ∧
      ((∃ m, 0 < m ∧ m ≤ ns.length ∧ l = placeFrom files.workingDirectory root ++ ns.take m) ∨
        files.isDirectory root = false ∧
          Along files.workingDirectory root (Path.names root).length l) := by
  obtain ⟨halong, hnone, hdir⟩ := (h.node? l).resolve_left hl
  refine ⟨hnone, hdir, ?_⟩
  rcases hbelow.along hup halong with hroot | hunder
  · right
    refine ⟨?_, hroot⟩
    by_contra hthere
    rw [Bool.not_eq_false] at hthere
    obtain ⟨base, hfound⟩ := isDirectory_eq_true_iff.mp hthere
    obtain ⟨-, hfollow, -⟩ := find_eq_ok_iff.mp hfound
    rw [node?_of_along hfollow hroot] at hnone
    cases hnone
  · exact .inl hunder

/-- **Pages stay in the folder of their day.** With a session that is not absolute and names no
parent, or without one, a path that is given out is that of the root, the month, the day, one folder
for each name of the session (one for a number), and the file, each of them a single name. Nothing in
the tree changes but that directories are added where nothing was: below the root, on the way to the
page, and, unless the root is a directory, on the way to it. -/
theorem nextPath_stays_in_day {explicit environment : Option Text} (hfile : IsPageFile fileName)
    (hsession : StaysBelow (resolveSession explicit environment))
    (h : nextPath files root fileName (resolveSession explicit environment) date =
      (files', .ok path)) :
    ∃ folders, IsFolders (resolveSession explicit environment) folders ∧
      (∀ name ∈ dayNames date ++ folders ++ [fileName], Path.IsName name) ∧
      Below root path (dayNames date ++ folders ++ [fileName]) ∧
      ∀ l, files'.node? l ≠ files.node? l →
        files.node? l = none ∧ files'.node? l = some .directory ∧
          ((∃ m, 0 < m ∧ m ≤ (dayNames date ++ folders).length ∧
              l = placeFrom files.workingDirectory root ++ (dayNames date ++ folders).take m) ∨
            files.isDirectory root = false ∧
              Along files.workingDirectory root (Path.names root).length l) := by
  generalize resolveSession explicit environment = session at hsession h ⊢
  obtain ⟨folder, opened, hfolder, hopened, ⟨e, hnext⟩ | hnext⟩ :=
    nextPath_cases files root fileName session date
  · rw [h] at hnext
    cases hnext
  · rw [h] at hnext
    cases hnext
    obtain ⟨habsolute, folders, hfolders, hall⟩ := hfolder.names_eq hsession
    have hbelow : Below root folder (dayNames date ++ folders) := ⟨habsolute, hall⟩
    have hnames : ∀ name ∈ dayNames date ++ folders, Path.IsName name :=
      List.forall_mem_append.mpr ⟨date.isName_folders, hfolders.isName hsession⟩
    refine ⟨folders, hfolders, ?_, below_join hbelow hfile.isName, fun l hl => ?_⟩
    · exact List.forall_mem_append.mpr ⟨hnames, List.forall_mem_singleton.mpr hfile.isName⟩
    · exact added_of_extends hbelow (fun name hname => (hnames name hname).ne_up) hopened hl

/-- A tree with a directory to save pages in. -/
def outTree : FileTree where
  entries := [(["out".toList], .directory)]

/-- A session that is a name makes one folder in that of the day. -/
theorem nextPath_of_named_session :
    let next := nextPath outTree "out" (Command.outputFileName "pages/ten.yaml" "image/webp")
      (resolveSession (some " episode-3 ") (some "7")) folderDay
    next.2 = .ok "out/2025-11/02/episode-3/ten_generated.webp" ∧
      Below "out" "out/2025-11/02/episode-3/ten_generated.webp"
        ["2025-11", "02", "episode-3", "ten_generated.webp"] ∧
      ∀ l, next.1.node? l ≠ outTree.node? l → ["out".toList] <+: l := by
  intro next
  have hresolved : resolveSession (some " episode-3 ") (some "7") = some "episode-3".toList := by
    decide +kernel
  have hsession : StaysBelow (resolveSession (some " episode-3 ") (some "7")) := by
    intro s hs
    rw [hresolved] at hs
    cases hs
    exact ⟨by decide, by decide⟩
  have hpath : next.2 = .ok "out/2025-11/02/episode-3/ten_generated.webp" :=
    eq_ok_of_toOption (by decide +kernel)
  obtain ⟨folders, hfolders, -, hbelow, hadded⟩ :=
    nextPath_stays_in_day (.generated "pages/ten.yaml" "image/webp") hsession (Prod.ext rfl hpath)
  obtain rfl : folders = ["episode-3".toList] := by
    rw [hresolved] at hfolders
    cases hfolders with
    | named h =>
      cases h
      decide
    | numbered h => cases h
  have hnames : dayNames folderDay ++ ["episode-3".toList] ++
      [Command.outputFileName "pages/ten.yaml" "image/webp"] =
        (["2025-11", "02", "episode-3", "ten_generated.webp"] : List Text) := by decide +kernel
  refine ⟨hpath, hnames ▸ hbelow, fun l hl => ?_⟩
  obtain ⟨-, -, ⟨m, -, -, rfl⟩ | ⟨hmissing, -⟩⟩ := hadded l hl
  · have hplace : placeFrom outTree.workingDirectory "out" = ["out".toList] := by decide
    rw [hplace]
    exact List.prefix_append _ _
  · have hthere : outTree.isDirectory "out" = true := by decide +kernel
    rw [hthere] at hmissing
    cases hmissing

/-- A session that names parents leads out of the root, and for a root that is not there a directory
is added that does not lie below it. -/
theorem nextPath_leaves_root :
    let fileName := Command.outputFileName "page.yaml" "image/png"
    let outside := nextPath outTree "out" fileName
      (resolveSession (some "../../../elsewhere") none) folderDay
    let above := nextPath {} "shelf/out" fileName (resolveSession none none) folderDay
    outside.2 = .ok "out/2025-11/02/../../../elsewhere/page_generated.png" ∧
      outTree.node? ["elsewhere".toList] = none ∧
      outside.1.node? ["elsewhere".toList] = some .directory ∧
      above.2 = .ok "shelf/out/2025-11/02/1/page_generated.png" ∧
      above.1.node? ["shelf".toList] = some .directory :=
  ⟨eq_ok_of_toOption (by decide +kernel), by decide, by decide +kernel,
    eq_ok_of_toOption (by decide +kernel), by decide +kernel⟩

end MangaPress.Output
