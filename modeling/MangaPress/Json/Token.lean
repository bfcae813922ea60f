/-
# JSON tokens

`Token.scan` cuts a JSON source into tokens from left to right and ends with `junk` where no token
begins. The source is a list of characters in which `none` stands for a byte that is no part of any
character; such bytes are admitted inside strings only.

A string token carries its text, or none if the string has no text: it holds an undecodable byte
or half of a surrogate pair. A number token carries its spelling.

Key definitions: `Token`, `Token.scan`, `Token.scanString`, `Token.scanNumber`.
-/
import MangaPress.Text.Utf8
import MangaPress.Text.Numeral

namespace MangaPress.Json

/-- Characters from a byte stream, with a mark for each byte that belongs to no character. -/
abbrev Source := List (Option Char)

/-- The source that a text is. -/
def Source.ofText (t : Text) : Source := t.map some

/-- The source that the bytes of a file or message are. -/
def Source.ofBytes (bytes : Bytes) : Source := Text.decodeMarked bytes

/-- The smallest meaningful parts of a JSON document. -/
inductive Token where
  | openArray
  | closeArray
  | openObject
  | closeObject
  | comma
  | colon
  | null
  | bool (b : Bool)
  | number (spelling : Text)
  | string (content : Option Text)
  | junk
deriving Repr, DecidableEq, Inhabited

namespace Token

/-- The white space of JSON. -/
def isSpace (c : Char) : Bool :=
  c == ' ' || c == '\n' || c == '\t' || c == '\r'

/-- The character that a one-letter escape stands for. -/
def simpleEscape? : Char → Option Char
  | '"' => some '"'
  | '\\' => some '\\'
  | '/' => some '/'
  | 'b' => some '\x08'
  | 'f' => some '\x0c'
  | 'n' => some '\n'
  | 'r' => some '\r'
  | 't' => some '\t'
  | _ => none

/-- The value of four hexadecimal digits. -/
def hexQuad? (a b c d : Char) : Option Nat :=
  Text.readDigits 16 0 [a, b, c, d]

/-- The character of a pair of surrogates. -/
def ofSurrogates (high low : Nat) : Char :=
  Char.ofNat (0x10000 + (high - 0xD800) * 0x400 + (low - 0xDC00))

/-- One more character before a text, if there is a text. -/
def push (c : Char) (t : Option Text) : Option Text :=
  t.map (c :: ·)

/-- Reads the rest of a string after its opening quote: its text, and what follows the closing
quote; none where the string is not well-formed. -/
def scanString : Source → Option (Option Text × Source)
  | [] => none
  | some '"' :: rest => some (some [], rest)
  | some '\\' :: some 'u' :: some a :: some b :: some c :: some d :: rest =>
    match hexQuad? a b c d with
    | none => none
    | some n =>
      if 0xD800 ≤ n ∧ n < 0xDC00 then
        match rest with
        | some '\\' :: some 'u' :: some a' :: some b' :: some c' :: some d' :: rest' =>
          match hexQuad? a' b' c' d' with
          | none => none
          | some m =>
            if 0xDC00 ≤ m ∧ m < 0xE000 then
              (scanString rest').map fun (t, r) => (push (ofSurrogates n m) t, r)
            else (scanString rest').map fun (_, r) => (none, r)
        | rest => (scanString rest).map fun (_, r) => (none, r)
      else if 0xDC00 ≤ n ∧ n < 0xE000 then (scanString rest).map fun (_, r) => (none, r)
      else (scanString rest).map fun (t, r) => (push (Char.ofNat n) t, r)
  | some '\\' :: some c :: rest =>
    match simpleEscape? c with
    | none => none
    | some e => (scanString rest).map fun (t, r) => (push e t, r)
  | some '\\' :: _ => none
  | some c :: rest =>
    if c.toNat < 0x20 then none
    else (scanString rest).map fun (t, r) => (push c t, r)
  | none :: rest => (scanString rest).map fun (_, r) => (none, r)

/-- The digits that the source begins with, and what follows them. -/
def takeDigits : Source → Text × Source
  | some c :: rest =>
    if Text.isDigit c then
      let (digits, after) := takeDigits rest
      (c :: digits, after)
    else ([], some c :: rest)
  | rest => ([], rest)

/-- The digits that the source begins with, if there are any, and what follows them. -/
def digits? (s : Source) : Option (Text × Source) :=
  match takeDigits s with
  | ([], _) => none
  | (digits, after) => some (digits, after)

/-- The sign that the source begins with, empty if there is none, and what follows it. -/
def takeSign : Source → Text × Source
  | some '+' :: rest => (['+'], rest)
  | some '-' :: rest => (['-'], rest)
  | rest => ([], rest)

/-- The fraction of a number, empty if there is none. -/
def scanFraction : Source → Option (Text × Source)
  | some '.' :: rest => (digits? rest).map fun (digits, after) => ('.' :: digits, after)
  | rest => some ([], rest)

/-- The exponent of a number, empty if there is none. -/
def scanExponent (s : Source) : Option (Text × Source) :=
  match s with
  | some c :: rest =>
    if c = 'e' ∨ c = 'E' then
      let (sign, rest) := takeSign rest
      (digits? rest).map fun (digits, after) => ('e' :: sign ++ digits, after)
    else some ([], s)
  | rest => some ([], rest)

/-- The whole part of a number: a zero alone or digits that begin with another one. -/
def scanWhole (s : Source) : Option (Text × Source) :=
  match digits? s with
  | none => none
  | some ('0' :: _ :: _, _) => none
  | some (digits, after) => some (digits, after)

/-- A number without sign: its spelling and what follows it. -/
def scanUnsigned (s : Source) : Option (Text × Source) := do
  let (whole, s) ← scanWhole s
  let (fraction, s) ← scanFraction s
  let (exponent, s) ← scanExponent s
  some (whole ++ fraction ++ exponent, s)

/-- A number: its spelling and what follows it. -/
def scanNumber : Source → Option (Text × Source)
  | some '-' :: rest => (scanUnsigned rest).map fun (t, r) => ('-' :: t, r)
  | s => scanUnsigned s

/-- The token that begins with the character, and what follows it. -/
def scanOne (c : Char) (rest : Source) : Token × Source :=
  match c with
  | '[' => (openArray, rest)
  | ']' => (closeArray, rest)
  | '\x7b' => (openObject, rest)
  | '\x7d' => (closeObject, rest)
  | ',' => (comma, rest)
  | ':' => (colon, rest)
  | 'n' =>
    match rest with
    | some 'u' :: some 'l' :: some 'l' :: rest => (null, rest)
    | _ => (junk, [])
  | 't' =>
    match rest with
    | some 'r' :: some 'u' :: some 'e' :: rest => (bool true, rest)
    | _ => (junk, [])
  | 'f' =>
    match rest with
    | some 'a' :: some 'l' :: some 's' :: some 'e' :: rest => (bool false, rest)
    | _ => (junk, [])
  | '"' =>
    match scanString rest with
    | some (content, rest) => (string content, rest)
    | none => (junk, [])
  | c =>
    match scanNumber (some c :: rest) with
    | some (spelling, rest) => (number spelling, rest)
    | none => (junk, [])

/-- Cuts a source into tokens; the fuel bounds their number. -/
def scanFrom : Nat → Source → List Token
  | 0, _ => []
  | _ + 1, [] => []
  | _ + 1, none :: _ => [junk]
  | fuel + 1, some c :: rest =>
    if isSpace c then scanFrom fuel rest
    else
      let (token, rest) := scanOne c rest
      token :: scanFrom fuel rest

/-- The tokens of a source. Every token takes at least one character, so the fuel suffices. -/
def scan (s : Source) : List Token :=
  scanFrom s.length s

end Token

end MangaPress.Json
