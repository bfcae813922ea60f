/-
# Quoted scalars

Between single quotes a doubled quote stands for a quote and nothing else is special. Between double
quotes a backslash begins an escape: a letter for a character, `x`, `u` or `U` with two, four or
eight hexadecimal digits for a code point, or the end of the line, which then joins the next line
without a space. Gaps are folded as in plain scalars. A document marker inside is an error.

Key definitions: `Quoted.escape?`, `Quoted.scan`.
-/
import MangaPress.Yaml.Gap
import MangaPress.Text.Numeral

namespace MangaPress.Yaml.Quoted

/-- The character that an escape letter stands for. -/
def escape? : Char → Option Char
  | '0' => some '\x00'
  | 'a' => some '\x07'
  | 'b' => some '\x08'
  | 't' => some '\t'
  | '\t' => some '\t'
  | 'n' => some '\n'
  | 'v' => some '\x0b'
  | 'f' => some '\x0c'
  | 'r' => some '\r'
  | 'e' => some '\x1b'
  | ' ' => some ' '
  | '"' => some '"'
  | '/' => some '/'
  | '\\' => some '\\'
  | 'N' => some '\u0085'
  | '_' => some '\u00a0'
  | 'L' => some '\u2028'
  | 'P' => some '\u2029'
  | _ => none

/-- The number of hexadecimal digits after an escape letter. -/
def hexLength? : Char → Option Nat
  | 'x' => some 2
  | 'u' => some 4
  | 'U' => some 8
  | _ => none

/-- Where in the scalar a scanner stands. -/
inductive Mode where
  /-- Between characters. -/
  | between
  /-- After a backslash. -/
  | escape
  /-- Before so many more hexadecimal digits of a code. -/
  | hex (left : Nat) (code : Nat)
  /-- After a single quote. -/
  | quote
deriving Repr, DecidableEq

/-- The character with a code, if there is one. -/
def ofCode? (n : Nat) : Option Char :=
  if n.isValidChar then some (Char.ofNat n) else none

/-- Scans on with what was read so far, in reverse order, and the gap after it. -/
def scanFrom (single : Bool) (mode : Mode) (read : Text) (gap : Gap) :
    List Glyph → Option (Text × List Glyph)
  | [] => none
  | g :: rest =>
    let c := g.char
    match mode with
    | .hex left code =>
      match Text.hexValue? c with
      | none => none
      | some d =>
        if left ≤ 1 then
          match ofCode? (code * 16 + d) with
          | none => none
          | some x => scanFrom single .between (x :: read) {} rest
        else scanFrom single (.hex (left - 1) (code * 16 + d)) read {} rest
    | .escape =>
      if isBreak c then scanFrom single .between read { newLine := true } rest
      else
        match hexLength? c with
        | some n => scanFrom single (.hex n 0) read {} rest
        | none =>
          match escape? c with
          | some x => scanFrom single .between (x :: read) {} rest
          | none => none
    | .quote =>
      if c == '\'' then scanFrom single .between ('\'' :: read) {} rest
      else some (read.reverse, g :: rest)
    | .between =>
      if isAnyMarker (g :: rest) then none
      else if isEnd c then none
      else if isBlank c || isBreak c then scanFrom single .between read (gap.add c) rest
      else if single && c == '\'' then scanFrom single .quote (gap.joined ++ read) {} rest
      else if !single && c == '"' then some ((gap.joined ++ read).reverse, rest)
      else if !single && c == '\\' then scanFrom single .escape (gap.joined ++ read) {} rest
      else scanFrom single .between (c :: (gap.joined ++ read)) {} rest

/-- Scans the scalar whose opening quote stands just before. -/
def scan (single : Bool) (gs : List Glyph) : Option (Text × List Glyph) :=
  scanFrom single .between [] {} gs

end MangaPress.Yaml.Quoted
