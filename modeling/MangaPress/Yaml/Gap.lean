/-
# Gaps between the words of a scalar

In plain and quoted scalars a run of blanks and line breaks between two words is a `Gap`. On one
line its blanks are kept. Over several lines the blanks go, and the breaks are folded: one line
feed becomes a space, and of several all but the first are kept; the breaks that are no line feeds
are kept always.

Key definitions: `Gap`, `Gap.add`, `Gap.joined`.
-/
import MangaPress.Yaml.Glyph

namespace MangaPress.Yaml

/-- Blanks and line breaks since the last word, in reverse order. -/
structure Gap where
  blanks : Text := []
  newLine : Bool := false
  firstBreak : Option Char := none
  moreBreaks : Text := []
deriving Repr, DecidableEq, Inhabited

namespace Gap

/-- Whether nothing was added. -/
def isEmpty (g : Gap) : Bool :=
  g.blanks.isEmpty && !g.newLine

/-- The gap with one more blank or line break. -/
def add (c : Char) (g : Gap) : Gap :=
  if isBlank c then
    if g.newLine then g else { g with blanks := c :: g.blanks }
  else if g.newLine then { g with moreBreaks := c :: g.moreBreaks }
  else { blanks := [], newLine := true, firstBreak := some c, moreBreaks := [] }

/-- What stands for the gap in the scalar, in reverse order. -/
def joined (g : Gap) : Text :=
  if g.newLine then
    match g.firstBreak with
    | some '\n' => if g.moreBreaks.isEmpty then [' '] else g.moreBreaks
    | some c => g.moreBreaks ++ [c]
    | none => g.moreBreaks
  else g.blanks

end Gap

end MangaPress.Yaml
