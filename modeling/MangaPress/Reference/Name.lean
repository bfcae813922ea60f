/-
# The file name of a reference image

A character's reference image is found under the key of its name: the name without white space and
without the characters that could lead a path or address elsewhere, in upper case. Names with the
same key share an image.

Key definitions: `Reference.key`, `Reference.fileName`.
-/
import MangaPress.Text.Blank
import MangaPress.Text.UpperCase

namespace MangaPress.Reference

/-- The characters with a meaning in paths and addresses. -/
def isUnsafe (c : Char) : Bool :=
  c == '/' || c == '\\' || c == '.' || c == '?' || c == '#' || c == '%'

/-- The key of a name. -/
def key (name : Text) : Text :=
  Text.upperCase (name.filter fun c => !Text.isBlank c && !isUnsafe c)

/-- What follows the key in a file name. -/
def ending : Text := "_ORIGIN.png"

/-- The name of the file that holds the reference image of a character. -/
def fileName (name : Text) : Text :=
  key name ++ ending

end MangaPress.Reference
