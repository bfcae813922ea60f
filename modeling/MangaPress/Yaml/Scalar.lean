/-
# The type of a scalar

A plain scalar without a tag is read by its look: nothing or a tilde or the word null, a truth
value, an integer (decimal, or after `0x`, `0o`, `0b`), a float, and otherwise a string. A decimal
with a superfluous leading zero is a string. An integer that does not fit in 64 bits but does in
128 has no value here; a longer one is a float. A tag of the core schema demands that the scalar be
of its type.

Key definitions: `Scalar.ofPlain?`, `Scalar.ofTag?`.
-/
import MangaPress.Yaml.Value
import MangaPress.Text.Numeral
import MangaPress.Text.Utf8

namespace MangaPress.Yaml.Scalar

/-- What comes of reading a scalar as a type. -/
inductive Outcome (α : Type) where
  /-- It has this value. -/
  | value (a : α)
  /-- It is of the type but out of range. -/
  | outOfRange
  /-- It is of another type. -/
  | other
deriving Repr, DecidableEq

/-- The spellings of null, the empty one apart. -/
def isNullWord (t : Text) : Bool :=
  ["null", "Null", "NULL", "~"].any fun w => w.toList == t

/-- A truth value. -/
def bool? (t : Text) : Option Bool :=
  if ["true", "True", "TRUE"].any fun w => w.toList == t then some true
  else if ["false", "False", "FALSE"].any fun w => w.toList == t then some false
  else none

/-- The text without one sign before it. -/
def dropSign : Text → Text
  | '+' :: rest => rest
  | '-' :: rest => rest
  | rest => rest

/-- Whether the text is a run of two or more digits that begins with a zero, perhaps after a
sign. -/
def hasLeadingZero (t : Text) : Bool :=
  match dropSign t with
  | '0' :: d :: rest => (d :: rest).all Text.isDigit
  | _ => false

/-- The digits after the mark of a base, and the base. -/
def basedDigits? : Text → Option (Nat × Text)
  | '0' :: 'x' :: rest => some (16, rest)
  | '0' :: 'o' :: rest => some (8, rest)
  | '0' :: 'b' :: rest => some (2, rest)
  | _ => none

/-- The number that digits of any of the bases stand for. -/
def magnitude? (t : Text) : Option Nat :=
  match basedDigits? t with
  | some (base, digits) => Text.toNatBase? base digits
  | none => if hasLeadingZero t then none else Text.toNat? t

/-- An integer. -/
def int (t : Text) : Outcome Int :=
  let (negative, digits) : Bool × Text :=
    match t with
    | '-' :: rest => (true, rest)
    | '+' :: rest => (false, rest)
    | rest => (false, rest)
  match magnitude? digits with
  | none => .other
  | some n =>
    if negative then
      if n ≤ 0x8000000000000000 then .value (-(n : Int))
      else if n ≤ 0x80000000000000000000000000000000 then .outOfRange
      else .other
    else if n ≤ Text.maxWord64 then .value n
    else if n ≤ 0xFFFFFFFFFFFFFFFFFFFFFFFFFFFFFFFF then .outOfRange
    else .other

/-- The exponent of a decimal numeral, zero if there is none. -/
def exponent? : Text → Option Int
  | [] => some 0
  | c :: rest => if c = 'e' ∨ c = 'E' then Text.toInt? rest else none

/-- A decimal numeral with at least one digit, perhaps a point, and perhaps an exponent, as a finite
double. -/
def decimal? (negative : Bool) (t : Text) : Option Double := do
  let whole := t.takeWhile Text.isDigit
  let afterWhole := t.dropWhile Text.isDigit
  let (fraction, rest) : Text × Text :=
    match afterWhole with
    | '.' :: rest => (rest.takeWhile Text.isDigit, rest.dropWhile Text.isDigit)
    | rest => ([], rest)
  let digits ← Text.toNat? (whole ++ fraction)
  let exponent ← exponent? rest
  Double.ofDecimal? negative digits (exponent - fraction.length)

/-- A float. -/
def float? (t : Text) : Option Double :=
  let (sign, unsigned) : Option Char × Text :=
    match t with
    | '-' :: rest => (some '-', rest)
    | '+' :: rest => (some '+', rest)
    | rest => (none, rest)
  if [".inf", ".Inf", ".INF"].any fun w => w.toList == unsigned then some (.infinity (sign == some '-'))
  else if [".nan", ".NaN", ".NAN"].any fun w => w.toList == t then some .nan
  else decimal? (sign == some '-') unsigned

/-- The value of a plain scalar without tag, if it has one. -/
def ofPlain? (t : Text) : Option Value :=
  if t.isEmpty || isNullWord t then some .null
  else
    match bool? t with
    | some b => some (.bool b)
    | none =>
      match int t with
      | .value n => some (.int n)
      | .outOfRange => none
      | .other =>
        if hasLeadingZero t then some (.string t)
        else
          match float? t with
          | some x => some (.float x)
          | none => some (.string t)

/-- A tag of the core schema. -/
def coreTag (name : String) : Bytes :=
  Text.encode ("tag:yaml.org,2002:" ++ name.toList)

/-- The value of a scalar with a tag that is not a local one. -/
def ofTag? (tag : Bytes) (t : Text) : Option Value :=
  if tag == coreTag "bool" then (bool? t).map .bool
  else if tag == coreTag "int" then
    match int t with
    | .value n => some (.int n)
    | _ => none
  else if tag == coreTag "float" then (float? t).map .float
  else if tag == coreTag "null" then if isNullWord t then some .null else none
  else some (.string t)

end MangaPress.Yaml.Scalar
