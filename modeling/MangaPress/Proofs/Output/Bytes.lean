/-
# Saving an image writes the bytes it stands for

The data of an image are read as Base64 before the file is touched. They are read iff they are the
standard encoding of a byte string, and these are the bytes that are written. A reference image is
loaded with the standard encoding of the bytes in its store, so saving it reproduces the file, and
the data of an image that is saved are those with which the saved file would be loaded.

Key definition: `Output.SavesBytes`.
Key theorem: `Output.saved_bytes_exact`.
-/
import MangaPress.Output
import MangaPress.Proofs.Base64.Standard
import MangaPress.Proofs.Files.Tree
import MangaPress.Proofs.Reference.Loading

namespace MangaPress.Output

open Reference

/-- To save the image is to write these bytes, wherever it is saved: it fails where they cannot be
written and leaves them at the path where they can. -/
structure SavesBytes (image : Image) (bytes : Bytes) : Prop where
  eq_write (files : FileTree) (path : Path) (room : Room) :
    saveImage files image path room = ((files.write path bytes room).1,
      (files.write path bytes room).2.mapError (.write path))
  bytesAt (files : FileTree) (path : Path) (room : Room) {saved : FileTree}
    (h : saveImage files image path room = (saved, .ok ())) : saved.bytesAt path = .ok bytes

variable {image : Image} {bytes : Bytes}

theorem savesBytes_of_decode? (h : Base64.decode? image.data = some bytes) :
    SavesBytes image bytes := by
  have heq (files : FileTree) (path : Path) (room : Room) :
      saveImage files image path room = ((files.write path bytes room).1,
        (files.write path bytes room).2.mapError (.write path)) := by
    unfold saveImage
    rw [h]
  refine ⟨heq, fun files path room saved hsaved => ?_⟩
  rw [heq] at hsaved
  rcases hwrite : files.write path bytes room with ⟨written, e | _⟩
  · rw [hwrite] at hsaved
    cases (Prod.mk.inj hsaved).2
  · rw [hwrite] at hsaved
    obtain ⟨rfl, -⟩ := Prod.mk.inj hsaved
    exact FileTree.bytesAt_write hwrite

/-- Whether the data of an image are refused depends on the data alone. -/
theorem saveImage_eq_notBase64_iff (files : FileTree) (image : Image) (path : Path) (room : Room) :
    (saveImage files image path room).2 = .error .notBase64 ↔
      Base64.decode? image.data = none := by
  cases h : Base64.decode? image.data with
  | none => simp [saveImage, h]
  | some bytes =>
    rw [(savesBytes_of_decode? h).eq_write]
    cases (files.write path bytes room).2 <;> simp [Except.mapError]

theorem decode?_ne_none_iff {t : Text} :
    Base64.decode? t ≠ none ↔ ∃ bytes, Base64.IsEncoding t bytes := by
  simp only [Option.ne_none_iff_exists', Base64.decode?_eq_some_iff]

/-- What is loaded is the image of the content that the store gives, if it has bytes. -/
theorem outcome_loadOne_of_content {store : Store} {name : Text} {c : Content}
    (hc : store.content (fileName name) = .ok c) (hbytes : c.bytes ≠ []) :
    (loadOne store name).outcome =
      .ok { mimeType := imageMimeType c.contentType, data := Base64.encode c.bytes } := by
  have himage := imageOf_eq_ok_iff.mpr ⟨hbytes, rfl⟩
  rw [loadOne, hc]
  exact himage

/-- **Loading and saving images are inverse to one another.** A reference image for which the store
has bytes is loaded, and to save what is loaded is to write exactly these bytes. An image of any
origin is refused as no Base64, in whatever tree and at whatever path, iff its data are not the
standard padded encoding of a byte string. If they are, then to save the image is to write this byte
string; these bytes, if there are any, are loaded as the same data, character for character, from
every store that has them. -/
theorem saved_bytes_exact :
    (∀ (store : Store) (name : Text) (c : Content),
      store.content (fileName name) = .ok c → c.bytes ≠ [] →
        ∃ image, (loadOne store name).outcome = .ok image ∧
          Base64.IsEncoding image.data c.bytes ∧ SavesBytes image c.bytes) ∧
    ∀ image : Image,
      (∀ files path room, (saveImage files image path room).2 ≠ .error .notBase64 ↔
        ∃ bytes, Base64.IsEncoding image.data bytes) ∧
      ∀ bytes, Base64.IsEncoding image.data bytes →
        SavesBytes image bytes ∧ Base64.encode bytes = image.data ∧
        ∀ (store : Store) (name : Text) (c : Content),
          store.content (fileName name) = .ok c → c.bytes = bytes → bytes ≠ [] →
            (loadOne store name).image?.map Image.data = some image.data := by
  constructor
  · intro store name c hc hbytes
    exact ⟨_, outcome_loadOne_of_content hc hbytes, Base64.isEncoding_encode c.bytes,
      savesBytes_of_decode? (Base64.decode?_encode c.bytes)⟩
  · intro image
    refine ⟨fun files path room => ?_, fun bytes h => ?_⟩
    · rw [Ne, saveImage_eq_notBase64_iff, ← Ne, decode?_ne_none_iff]
    · have hdata : Base64.encode bytes = image.data := (Base64.isEncoding_iff.mp h).symm
      refine ⟨savesBytes_of_decode? (Base64.decode?_eq_some_iff.mpr h), hdata, ?_⟩
      rintro store name c hc rfl hbytes
      rw [image?_eq_some_iff.mpr (outcome_loadOne_of_content hc hbytes), Option.map_some, hdata]

/-- A file of four bytes is loaded and saved under another name; data with a bit after the last byte
are refused. -/
theorem saved_of_fourBytes :
    let files : FileTree := { entries := [(["TEN_ORIGIN.png".toList], .file [137, 80, 78, 71])] }
    let image : Image := { mimeType := "image/png", data := "iVBORw==" }
    (∃ saved, saveImage files image "page.png" = (saved, .ok ()) ∧
      saved.bytesAt "page.png" = .ok [137, 80, 78, 71]) ∧
    ((loadOne (.ofDirectory files ".") "Ten").image?.map Image.data = some image.data) ∧
    ¬ ∃ bytes, Base64.IsEncoding "iVBORx==" bytes := by
  intro files image
  have hcontent : (Store.ofDirectory files ".").content (fileName "Ten") =
      .ok { bytes := [137, 80, 78, 71] } := by decide +kernel
  have hencoding : Base64.IsEncoding image.data [137, 80, 78, 71] :=
    Base64.isEncoding_iff.mpr (by decide +kernel)
  obtain ⟨hsaves, -, hloaded⟩ := (saved_bytes_exact.2 image).2 _ hencoding
  have hwritten : (files.write "page.png" [137, 80, 78, 71]).2.toOption.isSome := by decide +kernel
  refine ⟨?_, hloaded _ _ _ hcontent rfl (by decide), ?_⟩
  · rcases hwrite : files.write "page.png" [137, 80, 78, 71] with ⟨saved, e | _⟩
    · rw [hwrite] at hwritten
      cases hwritten
    · have hsaved : saveImage files image "page.png" = (saved, .ok ()) := by
        rw [hsaves.eq_write, hwrite]
        rfl
      exact ⟨saved, hsaved, hsaves.bytesAt _ _ _ hsaved⟩
  · rw [← (saved_bytes_exact.2 { data := "iVBORx==" }).1 files "page.png" .ample, not_not,
      saveImage_eq_notBase64_iff]
    decide +kernel

end MangaPress.Output
