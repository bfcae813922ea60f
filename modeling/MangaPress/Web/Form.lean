/-
# Form encoding

`Form.encode` writes a text as a value in the query of an address: each byte of its UTF-8 form is an
ASCII letter or digit, one of the signs `*`, `-`, `.` and `_`, a plus sign for a space, or a percent
sign with two upper-case hexadecimal digits.

Key definitions: `Form.encode`, `Form.pair`.
-/
import MangaPress.Text.Numeral
import MangaPress.Text.Utf8

namespace MangaPress.Web

/-- The upper-case hexadecimal digit for a value below sixteen. -/
def upperHexDigit (n : Nat) : Char :=
  if n < 10 then Char.ofNat (0x30 + n) else Char.ofNat (0x37 + n)

/-- A percent sign and the two digits of a byte. -/
def percentByte (b : UInt8) : Text :=
  ['%', upperHexDigit (b.toNat / 16), upperHexDigit (b.toNat % 16)]

namespace Form

/-- The bytes that stand for themselves. -/
def isPlainByte (b : UInt8) : Bool :=
  let n := b.toNat
  (0x30 ≤ n && n ≤ 0x39) || (0x41 ≤ n && n ≤ 0x5A) || (0x61 ≤ n && n ≤ 0x7A) ||
    n == 0x2A || n == 0x2D || n == 0x2E || n == 0x5F

/-- One byte in the encoded text. -/
def encodeByte (b : UInt8) : Text :=
  if b == 0x20 then ['+']
  else if isPlainByte b then [Char.ofNat b.toNat]
  else percentByte b

/-- A text as a name or value of a query. -/
def encode (t : Text) : Text :=
  (Text.encode t).flatMap encodeByte

/-- A name and its value. -/
def pair (name value : Text) : Text :=
  encode name ++ '=' :: encode value

end Form

end MangaPress.Web
