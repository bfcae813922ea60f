/-
# Plain scalars

A plain scalar runs over words and the gaps between them. It ends before a comment, a document
marker, a colon with a blank behind it, in a flow collection before one of the flow indicators, and
in a block where a line is indented less than `least`. The blanks and line breaks before its end
belong to no word; they are passed over.

Key definitions: `Plain.ends`, `Plain.scan`.
-/
import MangaPress.Yaml.Gap

namespace MangaPress.Yaml.Plain

/-- A scanned plain scalar: its text, whether its last gap goes over a line break, and what comes
after it. -/
structure Scanned where
  text : Text
  newLine : Bool
  rest : List Glyph
deriving Repr

/-- The indicators of flow collections. -/
def isFlowIndicator (c : Char) : Bool :=
  c == ',' || c == '[' || c == ']' || c == '\x7b' || c == '\x7d'

/-- The characters that must not follow a colon inside a word in a flow collection. -/
def isBadAfterColon (c : Char) : Bool :=
  isFlowIndicator c || c == '?'

/-- Whether the scalar ends before these glyphs, the gap since its last word being `gap`. -/
def ends (flow : Bool) (least : Int) (gap : Gap) : List Glyph → Bool
  | [] => true
  | g :: rest =>
    isEnd g.char ||
      (!gap.isEmpty && !flow && decide ((g.column : Int) < least)) ||
      isAnyMarker (g :: rest) ||
      (g.char == '#' && !gap.isEmpty) ||
      (g.char == ':' && isBlankOrEnd (peek rest)) ||
      (flow && isFlowIndicator g.char)

/-- Scans on with the words read so far, in reverse order, and the gap after them. -/
def scanFrom (flow : Bool) (least : Int) (read : Text) (gap : Gap) : List Glyph → Option Scanned
  | [] => some ⟨read.reverse, gap.newLine, []⟩
  | g :: rest =>
    if isBlank g.char || isBreak g.char then
      if gap.newLine && decide ((g.column : Int) < least) && g.char == '\t' then none
      else scanFrom flow least read (gap.add g.char) rest
    else if ends flow least gap (g :: rest) then some ⟨read.reverse, gap.newLine, g :: rest⟩
    else if flow && g.char == ':' && isBadAfterColon (peek rest) then none
    else scanFrom flow least (g.char :: (gap.joined ++ read)) {} rest

/-- Scans the plain scalar that begins here. -/
def scan (flow : Bool) (least : Int) (gs : List Glyph) : Option Scanned :=
  scanFrom flow least [] {} gs

end MangaPress.Yaml.Plain
