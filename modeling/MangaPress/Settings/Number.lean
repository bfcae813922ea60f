/-
# Numbers in settings

A number in a setting is decimal digits, perhaps after a plus sign, and has a largest value. Digits
are read from the left, so a number that grows too large is reported before a character further on
that is no digit.

Key definitions: `NumeralError`, `Numeral.parse`.
-/
import MangaPress.Text.Numeral

namespace MangaPress

/-- Why a text is not a number. -/
inductive NumeralError where
  | empty
  | invalidDigit
  | tooLarge
deriving Repr, DecidableEq

/-- The wording of the error. -/
def NumeralError.message : NumeralError → Text
  | empty => "cannot parse integer from empty string"
  | invalidDigit => "invalid digit found in string"
  | tooLarge => "number too large to fit in target type"

namespace Numeral

/-- Reads digits after the value read so far. -/
def parseFrom (largest value : Nat) : Text → Except NumeralError Nat
  | [] => .ok value
  | c :: rest =>
    match Text.digitValue? 10 c with
    | none => .error .invalidDigit
    | some d =>
      if largest < value * 10 + d then .error .tooLarge
      else parseFrom largest (value * 10 + d) rest

/-- The number that a text is, if it is not larger than `largest`. -/
def parse (largest : Nat) (t : Text) : Except NumeralError Nat :=
  match t with
  | [] => .error .empty
  | ['+'] => .error .invalidDigit
  | '+' :: rest => parseFrom largest 0 rest
  | t => parseFrom largest 0 t

end Numeral

end MangaPress
