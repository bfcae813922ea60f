/-
# The numbers of JSON

The value that the spelling of a JSON number stands for: a number without fraction and exponent is
an integer if it fits in 64 bits with or without sign, the negative zero excepted; every other
number is a double. A number beyond the largest finite double has no value.

Key definitions: `Number`, `Number.ofSpelling?`.
-/
import MangaPress.Decimal.Double
import MangaPress.Text.Numeral

namespace MangaPress.Json

/-- The value of a number. -/
inductive Number where
  | int (n : Int)
  | float (x : Double)
deriving Repr, DecidableEq

/-- A decimal spelling taken apart: sign, digits before and after the point, exponent. -/
structure Spelling where
  negative : Bool
  whole : Text
  fraction : Text
  exponent : Int
  plain : Bool
deriving Repr

/-- The value of digits that are known to be decimal ones. -/
def digitsValue (t : Text) : Nat :=
  (Text.readDigits 10 0 t).getD 0

/-- Takes the spelling of a number apart. -/
def Spelling.ofText (t : Text) : Spelling :=
  let (negative, unsigned) : Bool × Text :=
    match t with
    | '-' :: rest => (true, rest)
    | rest => (false, rest)
  let whole := unsigned.takeWhile Text.isDigit
  let afterWhole := unsigned.dropWhile Text.isDigit
  let (fraction, afterFraction) : Text × Text :=
    match afterWhole with
    | '.' :: rest => (rest.takeWhile Text.isDigit, rest.dropWhile Text.isDigit)
    | rest => ([], rest)
  let exponent : Int :=
    match afterFraction with
    | 'e' :: rest => (Text.toInt? rest).getD 0
    | _ => 0
  { negative, whole, fraction, exponent, plain := afterWhole.isEmpty }

/-- The value of a number, if it has one. -/
def Number.ofSpelling? (t : Text) : Option Number :=
  let s := Spelling.ofText t
  let n := digitsValue s.whole
  if s.plain && !s.negative && decide (n ≤ Text.maxWord64) then some (.int n)
  else if s.plain && s.negative && decide (0 < n) && Text.inInt64 (-(n : Int)) then
    some (.int (-(n : Int)))
  else
    (Double.ofDecimal? s.negative (digitsValue (s.whole ++ s.fraction))
      (s.exponent - s.fraction.length)).map .float

end MangaPress.Json
