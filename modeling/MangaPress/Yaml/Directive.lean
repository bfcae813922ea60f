/-
# Directives

Before a document may stand a line with the version of YAML, and lines that give tag handles a
prefix. `Directive.scan` reads the line after its percent sign. Every other directive is an error.

Key definitions: `Directive`, `Directive.scan`.
-/
import MangaPress.Yaml.Tag
import MangaPress.Yaml.Block

namespace MangaPress.Yaml

/-- A directive line. -/
inductive Directive where
  | version (major minor : Nat)
  | tag (handle : Text) (source : Bytes)
deriving Repr, DecidableEq, Inhabited

namespace Directive

/-- The most digits that a part of a version may have. -/
def maxDigits : Nat := 9

/-- Scans a part of a version. -/
def scanNumber (gs : List Glyph) : Option (Nat × List Glyph) := do
  let digits := textWhile Text.isDigit gs
  let n ← Text.toNat? digits
  if digits.length ≤ maxDigits then some (n, skipWhile Text.isDigit gs) else none

/-- Scans the value of a version directive. -/
def scanVersion (gs : List Glyph) : Option (Directive × List Glyph) := do
  let (major, gs) ← scanNumber (skipWhile isBlank gs)
  if peek gs == '.' then
    let (minor, gs) ← scanNumber (gs.drop 1)
    some (version major minor, gs)
  else none

/-- Scans the value of a tag directive. -/
def scanTag (gs : List Glyph) : Option (Directive × List Glyph) := do
  let (handle, gs) ← Tag.scanHandle (skipWhile isBlank gs)
  if (Tag.isClosedHandle handle || handle == ['!']) && isBlank (peek gs) then
    let (source, gs) ← Tag.scanUri true [] (skipWhile isBlank gs)
    if isBlankOrEnd (peek gs) then some (tag handle source, gs) else none
  else none

/-- Scans the directive whose percent sign stands just before, up to the next line. -/
def scan (gs : List Glyph) : Option (Directive × List Glyph) := do
  let name := textWhile isNameChar gs
  let gs := skipWhile isNameChar gs
  let (directive, gs) ←
    if !isBlankOrEnd (peek gs) then none
    else if name == "YAML".toList then scanVersion gs
    else if name == "TAG".toList then scanTag gs
    else none
  let gs := Block.skipComment gs
  if isBreak (peek gs) then some (directive, gs.drop 1)
  else if isEnd (peek gs) then some (directive, gs)
  else none

end Directive

end MangaPress.Yaml
