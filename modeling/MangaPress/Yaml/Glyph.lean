/-
# Characters in their places

A scanner of YAML needs to know where on the page a character stands. `Glyph.ofText?` gives every
character its line, its column and its index in the text, writes each of the line breaks CR LF, CR,
LF and NEL as one line feed, and closes the list with a NUL that stands for the end of the text. A
text with a character that YAML does not admit has no glyphs; NUL is among those, so the closing one
is the only one.

Key definitions: `Glyph`, `Glyph.ofText?`, `Glyph.isBlankOrEnd`.
-/
import MangaPress.Text.Basic

namespace MangaPress.Yaml

/-- A character with its place in the text. -/
structure Glyph where
  char : Char
  line : Nat
  column : Nat
  index : Nat
deriving Repr, DecidableEq, Inhabited

/-- The byte order mark. -/
def byteOrderMark : Char := '\uFEFF'

/-- A character that a YAML text may hold. -/
def isAdmitted (c : Char) : Bool :=
  let n := c.toNat
  n == 0x9 || n == 0xA || n == 0xD || (0x20 ≤ n && n ≤ 0x7E) || n == 0x85 ||
    (0xA0 ≤ n && n ≤ 0xD7FF) || (0xE000 ≤ n && n ≤ 0xFFFD) || 0x10000 ≤ n

/-- The line breaks other than line feed that are written as a line feed. -/
def isForeignBreak (c : Char) : Bool :=
  c == '\r' || c == '\u0085'

/-- A line break, once CR and NEL are written as line feeds. -/
def isBreak (c : Char) : Bool :=
  c == '\n' || c == '\u2028' || c == '\u2029'

/-- A space or tab. -/
def isBlank (c : Char) : Bool :=
  c == ' ' || c == '\t'

/-- The closing NUL. -/
def isEnd (c : Char) : Bool :=
  c == '\x00'

/-- A line break or the end. -/
def isBreakOrEnd (c : Char) : Bool :=
  isBreak c || isEnd c

/-- A space, a tab, a line break or the end. -/
def isBlankOrEnd (c : Char) : Bool :=
  isBlank c || isBreakOrEnd c

/-- A character of names: an ASCII letter or digit, a low line or a hyphen. -/
def isNameChar (c : Char) : Bool :=
  c.isAlphanum || c == '_' || c == '-'

namespace Glyph

/-- Gives the characters their places from the given one on. -/
def place (line column index : Nat) : Text → List Glyph
  | [] => [⟨'\x00', line, column, index⟩]
  | '\r' :: '\n' :: rest => ⟨'\n', line, column, index⟩ :: place (line + 1) 0 (index + 2) rest
  | c :: rest =>
    if isForeignBreak c then ⟨'\n', line, column, index⟩ :: place (line + 1) 0 (index + 1) rest
    else if isBreak c then ⟨c, line, column, index⟩ :: place (line + 1) 0 (index + 1) rest
    else ⟨c, line, column, index⟩ :: place line (column + 1) (index + 1) rest

/-- The glyphs of a text whose characters are all admitted. -/
def ofText? (t : Text) : Option (List Glyph) :=
  if t.all isAdmitted then some (place 0 0 0 t) else none

end Glyph

/-- The character that comes next; past the end it is the closing NUL again. -/
def peek : List Glyph → Char
  | [] => '\x00'
  | g :: _ => g.char

/-- The character at the distance. -/
def peekAt (gs : List Glyph) (distance : Nat) : Char :=
  peek (gs.drop distance)

/-- Whether a document marker of the given character stands here: three of them at the beginning of
a line, and then a blank or the end. -/
def isMarker (c : Char) : List Glyph → Bool
  | ⟨c₀, _, column, _⟩ :: rest =>
    column == 0 && c₀ == c && peek rest == c && peekAt rest 1 == c && isBlankOrEnd (peekAt rest 2)
  | [] => false

/-- Whether either document marker stands here. -/
def isAnyMarker (gs : List Glyph) : Bool :=
  isMarker '-' gs || isMarker '.' gs

/-- The glyphs from the first on whose character does not satisfy `p`. -/
def skipWhile (p : Char → Bool) (gs : List Glyph) : List Glyph :=
  gs.dropWhile fun g => p g.char

/-- The characters up to the first that does not satisfy `p`. -/
def textWhile (p : Char → Bool) (gs : List Glyph) : Text :=
  (gs.takeWhile fun g => p g.char).map (·.char)

end MangaPress.Yaml
