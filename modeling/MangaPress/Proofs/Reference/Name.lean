/-
# No name leads out of the place of the reference images

The key of a name holds no white space and none of the characters with a meaning in paths and
addresses: they are taken out before the name is put in upper case, and no capital is one of them.
So a file name is one name of a path and one segment of an address, whatever the character is called,
and the file is looked up in the directory or below the address that is the base.

Key theorem: `Reference.fileName_stays`.
-/
import MangaPress.Proofs.Files.Tree
import MangaPress.Proofs.Text.UpperCase
import MangaPress.Proofs.Web.Url
import MangaPress.Reference.Name
import MangaPress.Reference.Store

namespace MangaPress.Reference

open Web

/-! ### The characters of a file name -/

/-- The characters that are taken out of a name besides white space. -/
def marks : List Char := ['/', '\\', '.', '?', '#', '%']

theorem isUnsafe_iff {c : Char} : isUnsafe c = true ↔ c ∈ marks := by
  simp [isUnsafe, marks, or_assoc]

/-- No capital is white space, and none is one of the marks. -/
theorem noCapital : Text.NoCapital (Text.blankCodes ++ marks.map Char.toNat) := by
  decide +kernel

theorem of_mem_key {name : Text} {c : Char} (h : c ∈ key name) :
    Text.isBlank c = false ∧ c ∉ marks := by
  have hin : ∀ hcode : c.toNat ∈ Text.blankCodes ++ marks.map Char.toNat,
      Text.isBlank c = false ∧ isUnsafe c = false := by
    intro hcode
    have hmem := noCapital.mem_of_mem_upperCase h hcode
    simpa using (List.mem_filter.mp hmem).2
  constructor
  · by_contra hb
    rw [Bool.not_eq_false] at hb
    have hcode := List.contains_iff_mem.mp hb
    exact Bool.false_ne_true ((hin (List.mem_append_left _ hcode)).1.symm.trans hb)
  · intro hc
    have hcode := List.mem_map_of_mem (f := Char.toNat) hc
    exact Bool.false_ne_true
      ((hin (List.mem_append_right _ hcode)).2.symm.trans (isUnsafe_iff.mpr hc))

theorem of_mem_ending {c : Char} (h : c ∈ ending) :
    Text.isBlank c = false ∧ c ∉ ['/', '\\', '?', '#', '%'] := by
  have hall : (ending.all fun c =>
      !Text.isBlank c && decide (c ∉ ['/', '\\', '?', '#', '%'])) = true := by decide +kernel
  simpa using List.all_eq_true.mp hall c h

theorem of_mem_fileName {name : Text} {c : Char} (h : c ∈ fileName name) :
    Text.isBlank c = false ∧ c ∉ ['/', '\\', '?', '#', '%'] := by
  have hsub : ['/', '\\', '?', '#', '%'] ⊆ marks := by decide
  rcases List.mem_append.mp h with h | h
  · obtain ⟨hblank, hmark⟩ := of_mem_key h
    exact ⟨hblank, fun hc => hmark (hsub hc)⟩
  · exact of_mem_ending h

theorem length_fileName (name : Text) : 11 ≤ (fileName name).length := by
  have h : ending.length = 11 := rfl
  rw [fileName, List.length_append, h]
  omega

theorem fileName_ne {name t : Text} (h : t.length < 11) : fileName name ≠ t := by
  rintro rfl
  exact Nat.not_le_of_lt h (length_fileName name)

/-! ### A file name in a path -/

theorem slash_not_mem_fileName (name : Text) : '/' ∉ fileName name :=
  fun h => (of_mem_fileName h).2 (by decide)

/-- What a directory gives under a file name is a file in that directory. -/
theorem file_of_content {name : Text} {files : FileTree} {base : Path} {c : Content}
    (h : (Store.ofDirectory files base).content (fileName name) = .ok c) :
    ∃ directory, files.follow (files.origin base) (Path.names base) = .ok (.node directory .directory) ∧
      files.node? (directory ++ [fileName name]) = some (.file c.bytes) := by
  have hslash := slash_not_mem_fileName name
  unfold Store.ofDirectory at h
  dsimp only at h
  split at h
  · rename_i bytes hbytes
    cases h
    obtain ⟨l, hfind⟩ := FileTree.bytesAt_eq_ok_iff.mp hbytes
    obtain ⟨directory, hdirectory, rfl⟩ := FileTree.location_of_find_concat hfind
      (Path.names_join base (fileName_ne (by decide)) (fileName_ne (by decide)) hslash)
      (fileName_ne (by decide))
    have hnode := FileTree.node?_of_follow (FileTree.find_eq_ok_iff.mp hfind).2.1
    refine ⟨directory, ?_, hnode⟩
    unfold FileTree.origin at hdirectory ⊢
    rwa [Path.isAbsolute_join base hslash] at hdirectory
  · cases h

/-! ### A file name in an address -/

theorem asciiLower_fileName_ne {name t : Text} (h : t.length < 11) :
    Url.asciiLower (fileName name) ≠ t := by
  rintro rfl
  rw [Url.asciiLower, List.length_map] at h
  exact Nat.not_le_of_lt h (length_fileName name)

theorem properFile_fileName (name : Text) : Url.ProperFile (fileName name) where
  noSlash := by
    intro c hc
    have hno := (of_mem_fileName hc).2
    simp only [List.mem_cons, not_or] at hno
    rw [Url.isSlash, beq_false_of_ne hno.1, beq_false_of_ne hno.2.1, Bool.false_or]
  pathOnly := by
    intro c hc
    have hno := (of_mem_fileName hc).2
    simp only [List.mem_cons, not_or] at hno
    exact ⟨hno.2.2.1, hno.2.2.2.1⟩
  noIgnored := by
    intro c hc
    rw [Bool.eq_false_iff]
    intro hi
    have hblank : Text.isBlank c = true := by
      simp only [Url.isIgnored, Bool.or_eq_true, beq_iff_eq] at hi
      rcases hi with (rfl | rfl) | rfl <;> rfl
    exact Bool.false_ne_true ((of_mem_fileName hc).1.symm.trans hblank)
  noSingleDot := by
    rw [Url.isSingleDot, beq_false_of_ne (asciiLower_fileName_ne (by decide)),
      beq_false_of_ne (asciiLower_fileName_ne (by decide)), Bool.false_or]
  noDoubleDot := by
    rw [Url.isDoubleDot, List.any_eq_false]
    intro w hw
    rw [beq_iff_eq]
    refine (asciiLower_fileName_ne ?_).symm
    revert w
    decide
  last := by
    intro c hc
    have hlast : (fileName name).getLast? = some 'g' := by
      rw [fileName, List.getLast?_append]
      rfl
    rw [hlast] at hc
    cases hc
    rfl

/-- What a file name is as a segment of an address. -/
theorem of_mem_segment {name : Text} {c : Char}
    (h : c ∈ Url.percentEncode Url.isEncodedInPath (fileName name)) : c ∉ ['/', '\\', '?', '#'] := by
  have hsub : ['/', '\\', '?', '#'] ⊆ ['/', '\\', '?', '#', '%'] := by decide
  have hdigits : ("0123456789ABCDEF".toList.all fun c => decide (c ∉ ['/', '\\', '?', '#'])) =
      true := by decide +kernel
  rcases Url.of_mem_percentEncode h with h | rfl | h
  · exact fun hc => (of_mem_fileName h).2 (hsub hc)
  · decide
  · simpa using List.all_eq_true.mp hdigits c h

/-- **No name leads out of the place of the images.** A file name is made of characters without
meaning in paths and addresses, its one dot apart. Joined to a directory it is one more name, and what
is read under it is a file in that directory. Below an address it is one more segment, after the path
of the address itself, with dots resolved and but for the slashes at its end. -/
theorem fileName_stays :
    (∀ name, (∀ c ∈ fileName name, Text.isBlank c = false ∧ c ∉ ['/', '\\', '?', '#', '%']) ∧
      ∃ k, fileName name = k ++ "_ORIGIN.png" ∧ '.' ∉ k) ∧
    (∀ name files base,
      Path.isAbsolute (fileName name) = false ∧ fileName name ∉ [[], ['.'], ['.', '.']] ∧
      Path.isAbsolute (Path.join base (fileName name)) = Path.isAbsolute base ∧
      Path.names (Path.join base (fileName name)) = Path.names base ++ [fileName name] ∧
      ∀ c, (Store.ofDirectory files base).content (fileName name) = .ok c → ∃ directory,
        files.follow (files.origin base) (Path.names base) = .ok (.node directory .directory) ∧
        files.node? (directory ++ [fileName name]) = some (.file c.bytes)) ∧
    (∀ name, ∀ c ∈ Url.percentEncode Url.isEncodedInPath (fileName name),
      c ∉ ['/', '\\', '?', '#']) ∧
    ∀ base address u answer, Place.ofBase base = .server address → Url.PathOnly base →
      Url.parse? base = some u → ∃ directory : Option Url,
        (∀ name, (Store.ofServer address answer).request? (fileName name) =
          directory.map fun d => d.withFile (fileName name)) ∧
        (∀ d ∈ directory, ∀ name, (d.withFile (fileName name)).target =
          d.path ++ '/' :: Url.percentEncode Url.isEncodedInPath (fileName name)) ∧
        ((∀ c ∈ base.getLast?, Url.isControlOrSpace c = false) → ∃ d, directory = some d ∧
          d.secure = u.secure ∧ d.authority = u.authority ∧
          Text.dropEndWhile (· == '/') d.path = Text.dropEndWhile (· == '/') u.path) := by
  refine ⟨fun name => ⟨fun c hc => of_mem_fileName hc, key name, rfl, fun h => ?_⟩,
    fun name files base => ⟨?_, ?_, ?_, ?_, fun c => file_of_content⟩,
    fun name c => of_mem_segment, fun base address u answer hbase hpath hu => ?_⟩
  · exact (of_mem_key h).2 (by decide)
  · exact Path.isAbsolute_of_noSlash (slash_not_mem_fileName name)
  · simp only [List.mem_cons, List.not_mem_nil, or_false, not_or]
    exact ⟨fileName_ne (by decide), fileName_ne (by decide), fileName_ne (by decide)⟩
  · exact Path.isAbsolute_join base (slash_not_mem_fileName name)
  · exact Path.names_join base (fileName_ne (by decide)) (fileName_ne (by decide))
      (slash_not_mem_fileName name)
  · have haddress : address = Text.dropEndWhile (· == '/') base := by
      unfold Place.ofBase at hbase
      split at hbase <;> cases hbase
      rfl
    obtain ⟨directory, hquery, hfile, hbelow⟩ := Url.exists_directory hu hpath
    refine ⟨directory, fun name => ?_, fun d hd name => Url.target_withFile (hquery d hd) _, hbelow⟩
    rw [haddress]
    exact hfile _ (properFile_fileName name)

/-- All images of one server are requested from it. -/
theorem request_below_host :
    ∃ d : Url, d.secure = true ∧ d.authority = "cdn.example.com".toList ∧ ∀ name,
      (Store.ofServer "https://cdn.example.com/characters" fun _ => .lost).request? (fileName name) =
        some (d.withFile (fileName name)) := by
  have hu : Url.parse? "https://cdn.example.com/characters/" = some {
      secure := true, authority := "cdn.example.com", segments := ["characters", ""] } := by
    decide +kernel
  have hpath : Url.PathOnly "https://cdn.example.com/characters/" := by
    have hall : ("https://cdn.example.com/characters/".toList.all fun c => c != '?' && c != '#') =
        true := by decide +kernel
    intro c hc
    simpa using List.all_eq_true.mp hall c hc
  obtain ⟨directory, hrequest, -, hbelow⟩ := fileName_stays.2.2.2
    "https://cdn.example.com/characters/" "https://cdn.example.com/characters" _ (fun _ => .lost)
    (by decide +kernel) hpath hu
  obtain ⟨d, rfl, hsecure, hauthority, -⟩ := hbelow (by rintro c ⟨⟩; rfl)
  exact ⟨d, hsecure, hauthority, hrequest⟩

end MangaPress.Reference
