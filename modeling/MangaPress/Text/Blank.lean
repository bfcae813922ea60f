/-
# White space

`isBlank` is the property White_Space of the Unicode character database: twenty-five characters,
among them the no-break space, the ideographic space and the two Unicode line separators, but not
the zero-width space. `trim` removes such characters from both ends of a text.
-/
import MangaPress.Text.Basic

namespace MangaPress.Text

/-- The codes of the white-space characters. -/
def blankCodes : List Nat :=
  [0x9, 0xA, 0xB, 0xC, 0xD, 0x20, 0x85, 0xA0, 0x1680, 0x2000, 0x2001, 0x2002, 0x2003, 0x2004,
    0x2005, 0x2006, 0x2007, 0x2008, 0x2009, 0x200A, 0x2028, 0x2029, 0x202F, 0x205F, 0x3000]

/-- A white-space character. -/
def isBlank (c : Char) : Bool :=
  blankCodes.contains c.toNat

/-- The text without white space at its ends. -/
def trim (t : Text) : Text :=
  dropOuterWhile isBlank t

/-- Whether the text holds nothing but white space. -/
def allBlank (t : Text) : Bool :=
  t.all isBlank

end MangaPress.Text
