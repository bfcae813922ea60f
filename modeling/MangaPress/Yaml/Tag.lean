/-
# Tags

A tag is written as a handle and a suffix, or in full between angle brackets. In its suffix a
percent sign and two hexadecimal digits stand for a byte, and such bytes must come in groups that
look like the encoding of one character. A resolved tag is a byte string: nothing obliges these
groups to be well-formed. A NUL byte ends it.

Key definitions: `Tag.Written`, `Tag.scan`, `Tag.scanHandle`, `Tag.scanUri`.
-/
import MangaPress.Yaml.Glyph
import MangaPress.Text.Numeral
import MangaPress.Text.Utf8

namespace MangaPress.Yaml.Tag

/-- A tag as written: the handle is empty for a tag in full. -/
structure Written where
  handle : Text
  suffix : Bytes
deriving Repr, DecidableEq, Inhabited

/-- The characters of a tag or tag prefix; `full` admits the flow indicators too. -/
def isUriChar (full : Bool) (c : Char) : Bool :=
  isNameChar c || (";/?:@&=+$.%!~*'()".toList.contains c) || (full && (c == ',' || c == '[' || c == ']'))

/-- The number of bytes in the group that a byte begins; zero if it begins none. -/
def groupWidth (b : Nat) : Nat :=
  if b < 0x80 then 1
  else if 0xC0 ≤ b ∧ b < 0xE0 then 2
  else if 0xE0 ≤ b ∧ b < 0xF0 then 3
  else if 0xF0 ≤ b ∧ b < 0xF8 then 4
  else 0

/-- Whether a byte may stand in a group after the first. -/
def isGroupRest (b : Nat) : Bool :=
  decide (0x80 ≤ b) && decide (b < 0xC0)

/-- Where in a URI a scanner stands: how many bytes of a group are still to come, and the digits of
a byte read so far. -/
inductive Mode where
  | between
  | group (left : Nat)
  | firstDigit (left : Nat)
  | secondDigit (left : Nat) (high : Nat)
deriving Repr, DecidableEq

/-- The place after the byte of a group; a group whose length is not known yet has zero to come. -/
def afterByte? (left byte : Nat) : Option Mode :=
  if left = 0 then
    match groupWidth byte with
    | 0 => none
    | 1 => some .between
    | width => some (.group (width - 1))
  else if isGroupRest byte then some (if left = 1 then .between else .group (left - 1))
  else none

/-- Scans on with the bytes read so far, in reverse order. -/
def scanUriFrom (full : Bool) (mode : Mode) (read : Bytes) : List Glyph → Option (Bytes × List Glyph)
  | [] => none
  | g :: rest =>
    match mode with
    | .between =>
      if !isUriChar full g.char then some (read.reverse, g :: rest)
      else if g.char == '%' then scanUriFrom full (.firstDigit 0) read rest
      else scanUriFrom full .between ((Text.encodeChar g.char).reverse ++ read) rest
    | .group left =>
      if g.char == '%' then scanUriFrom full (.firstDigit left) read rest else none
    | .firstDigit left =>
      match Text.hexValue? g.char with
      | none => none
      | some high => scanUriFrom full (.secondDigit left high) read rest
    | .secondDigit left high =>
      match Text.hexValue? g.char with
      | none => none
      | some low =>
        match afterByte? left (high * 16 + low) with
        | none => none
        | some mode => scanUriFrom full mode (UInt8.ofNat (high * 16 + low) :: read) rest

/-- Scans the characters of a tag that follow `head`; together they must not be empty. -/
def scanUri (full : Bool) (head : Text) (gs : List Glyph) : Option (Bytes × List Glyph) :=
  match scanUriFrom full .between [] gs with
  | none => none
  | some (bytes, rest) =>
    if head.isEmpty && bytes.isEmpty then none
    else some ((Text.encode (head.drop 1) ++ bytes).takeWhile (· != 0), rest)

/-- Scans a handle: an exclamation mark, name characters and perhaps another mark. -/
def scanHandle (gs : List Glyph) : Option (Text × List Glyph) :=
  if peek gs != '!' then none
  else
    let name := textWhile isNameChar (gs.drop 1)
    let gs := skipWhile isNameChar (gs.drop 1)
    if peek gs == '!' then some ('!' :: name ++ ['!'], gs.drop 1)
    else some ('!' :: name, gs)

/-- Whether a handle ends in a mark of its own. -/
def isClosedHandle (handle : Text) : Bool :=
  decide (2 ≤ handle.length) && handle.getLast? == some '!'

/-- Scans the parts of the tag that begins here with an exclamation mark. -/
def scanParts (gs : List Glyph) : Option (Written × List Glyph) :=
  if peekAt gs 1 == '<' then do
    let (suffix, gs) ← scanUri true [] (gs.drop 2)
    if peek gs == '>' then some (⟨[], suffix⟩, gs.drop 1) else none
  else do
    let (handle, gs) ← scanHandle gs
    if isClosedHandle handle then
      let (suffix, gs) ← scanUri false [] gs
      some (⟨handle, suffix⟩, gs)
    else
      let (suffix, gs) ← scanUri false handle gs
      if suffix.isEmpty then some (⟨[], Text.encode ['!']⟩, gs) else some (⟨['!'], suffix⟩, gs)

/-- Scans the tag that begins here; a blank or the end must follow, or in a flow collection a
comma. -/
def scan (flow : Bool) (gs : List Glyph) : Option (Written × List Glyph) := do
  let (tag, gs) ← scanParts gs
  if isBlankOrEnd (peek gs) || (flow && peek gs == ',') then some (tag, gs) else none

end MangaPress.Yaml.Tag
