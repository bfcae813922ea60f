/-
# Writing JSON

A `Json.Value` is a value to be written. `compact` writes it without white space, `pretty` with one
member or item a line and two spaces for each level. Only the quote, the backslash and the control
characters below the space are escaped in strings, with the short forms where there are any.

Key definitions: `Json.Value`, `Value.compact`, `Value.pretty`, `quote`.
-/
import MangaPress.Text.Numeral

namespace MangaPress.Json

/-- A value to be written. -/
inductive Value where
  | null
  | bool (b : Bool)
  | int (n : Int)
  | string (t : Text)
  | array (items : List Value)
  | object (members : List (Text × Value))
deriving Repr, Inhabited

/-- An object with the fields that have a value, in order. -/
def Value.ofFields (fields : List (String × Option Value)) : Value :=
  .object (fields.filterMap fun (name, v) => v.map fun v => (name.toList, v))

/-- A character inside a string. -/
def escapeChar (c : Char) : Text :=
  match c with
  | '"' => ['\\', '"']
  | '\\' => ['\\', '\\']
  | '\x08' => ['\\', 'b']
  | '\x0c' => ['\\', 'f']
  | '\n' => ['\\', 'n']
  | '\r' => ['\\', 'r']
  | '\t' => ['\\', 't']
  | c =>
    if c.toNat < 0x20 then
      ['\\', 'u', '0', '0', Text.digitChar (c.toNat / 16), Text.digitChar (c.toNat % 16)]
    else [c]

/-- A string. -/
def quote (t : Text) : Text :=
  ['"'] ++ t.flatMap escapeChar ++ ['"']

namespace Value

mutual

/-- The value without white space. -/
def compact : Value → Text
  | null => ['n', 'u', 'l', 'l']
  | bool true => ['t', 'r', 'u', 'e']
  | bool false => ['f', 'a', 'l', 's', 'e']
  | int n => Text.ofInt n
  | string t => quote t
  | array items => '[' :: compactItems items ++ [']']
  | object members => '\x7b' :: compactMembers members ++ ['\x7d']

/-- Items with commas between them. -/
def compactItems : List Value → Text
  | [] => []
  | [v] => compact v
  | v :: w :: rest => compact v ++ ',' :: compactItems (w :: rest)

/-- Members with commas between them. -/
def compactMembers : List (Text × Value) → Text
  | [] => []
  | [(k, v)] => quote k ++ ':' :: compact v
  | (k, v) :: m :: rest => quote k ++ ':' :: compact v ++ ',' :: compactMembers (m :: rest)

end

end Value

/-- A new line at a level. -/
def newLine (level : Nat) : Text :=
  '\n' :: List.replicate (2 * level) ' '

namespace Value

mutual

/-- The value on lines of its own, the innermost `level` levels deep. -/
def prettyAt (level : Nat) : Value → Text
  | array [] => ['[', ']']
  | array (v :: rest) => '[' :: prettyItems level (v :: rest) ++ newLine level ++ [']']
  | object [] => ['\x7b', '\x7d']
  | object (m :: rest) => '\x7b' :: prettyMembers level (m :: rest) ++ newLine level ++ ['\x7d']
  | null => ['n', 'u', 'l', 'l']
  | bool true => ['t', 'r', 'u', 'e']
  | bool false => ['f', 'a', 'l', 's', 'e']
  | int n => Text.ofInt n
  | string t => quote t

/-- Items with commas between them, each on a line of its own. -/
def prettyItems (level : Nat) : List Value → Text
  | [] => []
  | [v] => newLine (level + 1) ++ prettyAt (level + 1) v
  | v :: w :: rest =>
    newLine (level + 1) ++ prettyAt (level + 1) v ++ ',' :: prettyItems level (w :: rest)

/-- Members with commas between them, each on a line of its own. -/
def prettyMembers (level : Nat) : List (Text × Value) → Text
  | [] => []
  | [(k, v)] => newLine (level + 1) ++ quote k ++ ':' :: ' ' :: prettyAt (level + 1) v
  | (k, v) :: m :: rest =>
    newLine (level + 1) ++ quote k ++ ':' :: ' ' :: prettyAt (level + 1) v ++
      ',' :: prettyMembers level (m :: rest)

end

/-- The value on lines of its own. -/
def pretty (v : Value) : Text :=
  prettyAt 0 v

end Value

end MangaPress.Json
