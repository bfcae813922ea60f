/-
# The names of page folders

The folder that pages of a day are saved in has the names of the month and the day below the root, and
then those of the session, or a number. Months, days and files are named so that each is one name, and
so is a number; the session is as many as it has, if it is not absolute and names no parent.

Key definitions: `Path.IsName`, `Output.StaysBelow`, `Output.IsFolders`.
Key theorems: `Output.IsFolder.names_eq`, `Image.isName_downloadName`, `isName_outputFileName`.
-/
import MangaPress.CommandLine.Command
import MangaPress.Proofs.Output.Saving
import MangaPress.Proofs.Text.Numeral

namespace MangaPress

/-! ### Single names -/

namespace Path

/-- The text is one name, and not that of a parent. -/
structure IsName (name : Text) : Prop where
  ne_nil : name ≠ []
  ne_dot : name ≠ ['.']
  ne_up : name ≠ ['.', '.']
  noSlash : '/' ∉ name

variable {name : Text}

theorem isName_of_mem {c : Char} (hc : c ∈ name) (hdot : c ≠ '.') (hslash : '/' ∉ name) :
    IsName name := by
  refine ⟨List.ne_nil_of_mem hc, ?_, ?_, hslash⟩
  · rintro rfl
    simp [hdot] at hc
  · rintro rfl
    simp [hdot] at hc

theorem names_join_of_isName (base : Path) (h : IsName name) :
    names (join base name) = names base ++ [name] :=
  names_join base h.ne_nil h.ne_dot h.noSlash

end Path

namespace Text

theorem isDigit_of_mem_ofNatPadded {c : Char} {width n : Nat} (h : c ∈ ofNatPadded width n) :
    isDigit c = true := by
  rcases List.mem_append.mp h with hzero | hdigit
  · rw [List.eq_of_mem_replicate hzero]
    rfl
  · exact isDigit_of_mem_ofNat hdigit

theorem slash_not_mem_ofNatPadded (width n : Nat) : '/' ∉ ofNatPadded width n :=
  fun h => absurd (isDigit_of_mem_ofNatPadded h) (by decide)

theorem slash_not_mem_ofNat (n : Nat) : '/' ∉ ofNat n :=
  fun h => absurd (isDigit_of_mem_ofNat h) (by decide)

theorem slash_not_mem_ofInt (n : Int) : '/' ∉ ofInt n := fun h =>
  (mem_ofInt h).elim (by decide) fun hdigit => absurd hdigit (by decide)

end Text

open MangaPress.Path

theorem isName_ofNat (n : Nat) : IsName (Text.ofNat n) := by
  obtain ⟨d, ds, hd, hdigit⟩ := Text.exists_ofNat_eq_cons n
  refine isName_of_mem (hd ▸ List.mem_cons_self) ?_ (Text.slash_not_mem_ofNat n)
  rintro rfl
  cases hdigit

theorem Date.isName_dayFolder (d : Date) : IsName d.dayFolder := by
  obtain ⟨c, ds, hd, hdigit⟩ := Text.exists_ofNat_eq_cons d.day
  refine isName_of_mem (c := c) ?_ ?_ (Text.slash_not_mem_ofNatPadded 2 d.day)
  · exact List.mem_append_right _ (hd ▸ List.mem_cons_self)
  · rintro rfl
    cases hdigit

theorem Date.isName_monthFolder (d : Date) : IsName d.monthFolder := by
  have hyear : '/' ∉ d.yearText := by
    unfold Date.yearText
    split_ifs
    · exact Text.slash_not_mem_ofNatPadded _ _
    · simp [Text.slash_not_mem_ofNat]
    · simp [Text.slash_not_mem_ofNatPadded]
  refine isName_of_mem (c := '-') ?_ (by decide) ?_
  · simp [Date.monthFolder]
  · simp [Date.monthFolder, hyear, Text.slash_not_mem_ofNatPadded]

theorem Date.isName_folders (d : Date) : ∀ name ∈ [d.monthFolder, d.dayFolder], IsName name :=
  List.forall_mem_cons.mpr ⟨d.isName_monthFolder, List.forall_mem_singleton.mpr d.isName_dayFolder⟩

theorem Image.slash_not_mem_extensionFor (mimeType : Text) : '/' ∉ extensionFor mimeType := by
  unfold extensionFor
  split_ifs <;> decide

theorem Image.isName_downloadName (i : Image) (milliseconds : Int) :
    IsName (i.downloadName milliseconds) := by
  unfold downloadName
  refine isName_of_mem (c := 'm') ?_ (by decide) ?_
  · exact List.mem_append_left _ (List.mem_append_left _ (List.mem_append_left _ (by decide)))
  · simp only [List.mem_append, not_or]
    exact ⟨⟨⟨by decide, Text.slash_not_mem_ofInt _⟩, by decide⟩, slash_not_mem_extensionFor _⟩

theorem isName_outputFileName (yamlPath : Path) (mimeType : Text) :
    IsName (Command.outputFileName yamlPath mimeType) := by
  have hstem : '/' ∉ (Path.fileStem? yamlPath).getD "page" := by
    cases h : Path.fileStem? yamlPath with
    | none => decide
    | some t => exact slash_not_mem_of_fileStem? h
  unfold Command.outputFileName
  refine isName_of_mem (c := '_') ?_ (by decide) ?_
  · exact List.mem_append_left _ (List.mem_append_right _ (by decide))
  · simp only [List.mem_append, not_or]
    exact ⟨⟨hstem, by decide⟩, Image.slash_not_mem_extensionFor _⟩

namespace Output

variable {root folder : Path} {session : Option Text} {date : Date} {folders : List Text}

/-- The session, if there is one, is not absolute and names no parent. -/
def StaysBelow (session : Option Text) : Prop :=
  ∀ s, session = some s → Path.isAbsolute s = false ∧ ['.', '.'] ∉ Path.names s

/-- The folders of a page below that of the day: those that the session names, or else a number. -/
inductive IsFolders (session : Option Text) : List Text → Prop where
  | named {s : Text} (h : session = some s) : IsFolders session (Path.names s)
  | numbered (h : session = none) (n : Nat) : IsFolders session [Text.ofNat n]

theorem IsFolders.isName (h : IsFolders session folders) (hs : StaysBelow session) :
    ∀ name ∈ folders, IsName name := by
  intro name hname
  cases h with
  | named h =>
    obtain ⟨hne, hdot, hslash⟩ := of_mem_names hname
    exact ⟨hne, hdot, fun hup => (hs _ h).2 (hup ▸ hname), hslash⟩
  | numbered h n =>
    rw [List.mem_singleton.mp hname]
    exact isName_ofNat n

/-- The names of the folder of a page: those of the root, of the month and the day, and its own. -/
theorem IsFolder.names_eq (h : IsFolder root session date folder) (hs : StaysBelow session) :
    isAbsolute folder = isAbsolute root ∧ ∃ folders, IsFolders session folders ∧
      Path.names folder = Path.names root ++ ([date.monthFolder, date.dayFolder] ++ folders) := by
  have hmonth := date.isName_monthFolder
  have hday := date.isName_dayFolder
  have habsolute : isAbsolute (dayPath root date) = isAbsolute root := by
    rw [dayPath, isAbsolute_join _ hday.noSlash, isAbsolute_join _ hmonth.noSlash]
  have hnames : Path.names (dayPath root date) =
      Path.names root ++ [date.monthFolder, date.dayFolder] := by
    rw [dayPath, names_join_of_isName _ hday, names_join_of_isName _ hmonth, List.append_assoc]
    rfl
  cases h with
  | @named s h =>
    have hrelative := (hs s h).1
    refine ⟨(isAbsolute_join_of_relative _ hrelative).trans habsolute, _, .named h, ?_⟩
    rw [names_join_of_relative _ hrelative, hnames, List.append_assoc]
  | numbered h n =>
    have hnumber := isName_ofNat n
    refine ⟨(isAbsolute_join _ hnumber.noSlash).trans habsolute, _, .numbered h n, ?_⟩
    rw [names_join_of_isName _ hnumber, hnames, List.append_assoc]

end Output

end MangaPress
