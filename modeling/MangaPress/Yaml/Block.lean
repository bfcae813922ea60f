/-
# Block scalars

A block scalar has a header line and then lines of one indentation, given by the header or else by
the most indented line up to the first one with text. In the literal style all line breaks are
kept. In the folded style a single break between two lines that begin with text becomes a space,
and of several all but the first are kept. The header also says what happens to the breaks at the
end: clipped to one, stripped, or kept.

Key definitions: `Block.Header`, `Block.header?`, `Block.scan`.
-/
import MangaPress.Yaml.Glyph
import MangaPress.Text.Numeral

namespace MangaPress.Yaml.Block

/-- What happens to the line breaks at the end of a block scalar. -/
inductive Chomping where
  | clip
  | strip
  | keep
deriving Repr, DecidableEq, Inhabited

/-- The header of a block scalar; the increment of the indentation is zero if none is given. -/
structure Header where
  chomping : Chomping := .clip
  increment : Nat := 0
deriving Repr, DecidableEq, Inhabited

/-- The chomping indicators. -/
def chomping? : Char → Option Chomping
  | '+' => some .keep
  | '-' => some .strip
  | _ => none

/-- The increment that a digit gives: zero is not allowed. -/
def increment? (c : Char) : Option Nat :=
  if '1' ≤ c ∧ c ≤ '9' then some (c.toNat - 0x30) else none

/-- The indicators after the bar or angle bracket, in either order, and what follows them. -/
def indicators? (gs : List Glyph) : Option (Header × List Glyph) :=
  match chomping? (peek gs) with
  | some chomping =>
    let gs := gs.drop 1
    if Text.isDigit (peek gs) then
      (increment? (peek gs)).map fun increment => ({ chomping, increment }, gs.drop 1)
    else some ({ chomping }, gs)
  | none =>
    if Text.isDigit (peek gs) then
      (increment? (peek gs)).map fun increment =>
        let gs := gs.drop 1
        match chomping? (peek gs) with
        | some chomping => ({ chomping, increment }, gs.drop 1)
        | none => ({ increment }, gs)
    else some ({}, gs)

/-- Passes over blanks and a comment. -/
def skipComment (gs : List Glyph) : List Glyph :=
  let gs := skipWhile isBlank gs
  if peek gs == '#' then skipWhile (fun c => !isBreakOrEnd c) gs else gs

/-- The header after the bar or angle bracket, and the first line after it. -/
def header? (gs : List Glyph) : Option (Header × List Glyph) := do
  let (header, gs) ← indicators? gs
  let gs := skipComment gs
  if isBreak (peek gs) then some (header, gs.drop 1)
  else if isEnd (peek gs) then some (header, gs)
  else none

/-- The content of a block scalar as far as it is read; texts are in reverse order. An `indent` of
zero is not yet known. -/
structure Progress where
  indent : Nat
  widest : Nat := 0
  text : Text := []
  lastBreak : Option Char := none
  emptyBreaks : Text := []
  lastBeganBlank : Bool := false
deriving Repr, DecidableEq, Inhabited

namespace Progress

/-- The indentation, found from the widest line if it is not known yet. -/
def indentOr (p : Progress) (least : Nat) : Nat :=
  if p.indent = 0 then max (max p.widest least) 1 else p.indent

/-- Begins a line whose first character is the given one: writes the breaks before it. -/
def beginLine (p : Progress) (literal : Bool) (c : Char) : Progress :=
  let folded := !literal && p.lastBreak == some '\n' && !p.lastBeganBlank && !isBlank c
  let text :=
    if folded then
      if p.emptyBreaks.isEmpty then ' ' :: p.text else p.emptyBreaks ++ p.text
    else p.emptyBreaks ++ (p.lastBreak.toList ++ p.text)
  { p with text, lastBreak := none, emptyBreaks := [], lastBeganBlank := isBlank c }

/-- The scalar at its end. -/
def finish (p : Progress) (chomping : Chomping) : Text :=
  match chomping with
  | .strip => p.text.reverse
  | .clip => (p.lastBreak.toList ++ p.text).reverse
  | .keep => (p.emptyBreaks ++ (p.lastBreak.toList ++ p.text)).reverse

end Progress

/-- Scans on; `inLine` says whether the text of a line has begun. -/
def scanFrom (literal : Bool) (chomping : Chomping) (least : Nat) (inLine : Bool) (p : Progress) :
    List Glyph → Option (Text × List Glyph)
  | [] => some (p.finish chomping, [])
  | g :: rest =>
    let c := g.char
    if inLine then
      if isBreak c then scanFrom literal chomping least false { p with lastBreak := some c } rest
      else if isEnd c then some (p.finish chomping, g :: rest)
      else scanFrom literal chomping least true { p with text := c :: p.text } rest
    else
      let inMargin := p.indent == 0 || decide (g.column < p.indent)
      if inMargin && c == ' ' then scanFrom literal chomping least false p rest
      else
        let p := { p with widest := max p.widest g.column }
        if inMargin && c == '\t' then none
        else if isBreak c then
          scanFrom literal chomping least false { p with emptyBreaks := c :: p.emptyBreaks } rest
        else
          let p := { p with indent := p.indentOr least }
          if g.column == p.indent && !isEnd c then
            let p := p.beginLine literal c
            scanFrom literal chomping least true { p with text := c :: p.text } rest
          else some (p.finish chomping, g :: rest)

/-- Scans the block scalar whose bar or angle bracket stands just before; `parent` is the
indentation of the block around it. -/
def scan (literal : Bool) (parent : Int) (gs : List Glyph) : Option (Text × List Glyph) := do
  let (header, gs) ← header? gs
  let indent := if header.increment = 0 then 0 else parent.toNat + header.increment
  scanFrom literal header.chomping (parent + 1).toNat false { indent } gs

end MangaPress.Yaml.Block
