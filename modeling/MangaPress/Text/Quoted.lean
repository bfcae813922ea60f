/-
# Quoted texts in messages

`quoted` is how a message shows a text that somebody typed: between double quotes, with the quote
and the backslash escaped, the usual short forms for tab, line feed, carriage return and NUL, and
the code in hexadecimal between braces for every other character that has no visible form of its
own (`isFaceless`). A single quote stands for itself.
-/
import MangaPress.Text.Faceless
import MangaPress.Text.Numeral

namespace MangaPress.Text

/-- A character as a quoted text shows it. -/
def quoteChar (c : Char) : Text :=
  match c with
  | '\x00' => ['\\', '0']
  | '\t' => ['\\', 't']
  | '\r' => ['\\', 'r']
  | '\n' => ['\\', 'n']
  | '"' => ['\\', '"']
  | '\\' => ['\\', '\\']
  | c =>
    if isFaceless c then ['\\', 'u', '\x7b'] ++ digitsBase 16 c.toNat ++ ['\x7d'] else [c]

/-- A text between double quotes, with every character in a visible form. -/
def quoted (t : Text) : Text :=
  ['"'] ++ t.flatMap quoteChar ++ ['"']

end MangaPress.Text
