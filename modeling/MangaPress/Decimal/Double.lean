/-
# Binary floating-point numbers

A `Double` is a number of the IEEE 754 binary64 format. A finite one is kept as its sign and its
magnitude, the other sixty-three bits read as a natural number: eleven bits of exponent above
fifty-two of fraction, so that the order of magnitudes is the order of absolute values.

`ofRatio?` rounds a quotient of natural numbers to the nearest double, a half to the even
neighbour, in exact arithmetic, and `ofDecimal?` applies it to a decimal numeral; neither gives a
number whose absolute value lies beyond the largest finite double.

Key definitions: `Double`, `Double.mantissa`, `Double.exponent`, `Double.ofDecimal?`, `Double.bits`.
-/

namespace MangaPress

/-- A binary64 number. -/
inductive Double where
  | finite (negative : Bool) (magnitude : Nat)
  | infinity (negative : Bool)
  | nan
deriving Repr, DecidableEq, Inhabited

namespace Double

/-- The number of fractions that share an exponent, which is also the bit that a normal number has
above its fraction. -/
def leadingBit : Nat := 0x10000000000000

/-- The weight of the sign among the bits. -/
def signBit : Nat := 0x8000000000000000

/-- The magnitude that stands for infinity: all exponent bits set and no fraction. -/
def infinityMagnitude : Nat := 0x7FF * leadingBit

/-- The integer `m` of the value `m · 2 ^ q` of a magnitude. -/
def mantissa (magnitude : Nat) : Nat :=
  if magnitude / leadingBit = 0 then magnitude else magnitude % leadingBit + leadingBit

/-- The exponent `q` of the value `m · 2 ^ q` of a magnitude. -/
def exponent (magnitude : Nat) : Int :=
  (max 1 (magnitude / leadingBit) : Nat) - 1075

/-- The quotient rounded to the nearest integer, a half to the even one. -/
def roundHalfEven (num den : Nat) : Nat :=
  let q := num / den
  let r := num % den
  if 2 * r < den then q
  else if den < 2 * r then q + 1
  else if q % 2 = 0 then q
  else q + 1

/-- The integer `m` for which `m · 2 ^ q` is nearest to `num / den`. -/
def roundAt (num den : Nat) (q : Int) : Nat :=
  if 0 ≤ q then roundHalfEven num (den * Nat.pow 2 q.toNat)
  else roundHalfEven (num * Nat.pow 2 (-q).toNat) den

/-- The magnitude nearest to `num / den`; it may be that of infinity or more. -/
def magnitudeOfRatio (num den : Nat) : Nat :=
  -- `q` is the least exponent at which the rounded quotient has at most 53 bits, or nearly so
  let q : Int := max (-1074) ((num.log2 : Int) - den.log2 - 52)
  let m := roundAt num den q
  if m < leadingBit ∧ -1074 < q then
    -- the estimate was one too high
    let q := q - 1
    roundAt num den q + (q + 1074).toNat * leadingBit
  else m + (q + 1074).toNat * leadingBit

/-- The finite double nearest to `num / den`, if there is one. -/
def ofRatio? (negative : Bool) (num den : Nat) : Option Double :=
  let m := magnitudeOfRatio num den
  if m < infinityMagnitude then some (finite negative m) else none

/-- The finite double nearest to `digits · 10 ^ exponent10`, if there is one. -/
def ofDecimal? (negative : Bool) (digits : Nat) (exponent10 : Int) : Option Double :=
  let scale : Int := (digits.log2 : Int) * 30103 / 100000 + exponent10
  if digits = 0 ∨ scale < -400 then some (finite negative 0)
  else if 400 < scale then none
  else if 0 ≤ exponent10 then ofRatio? negative (digits * Nat.pow 10 exponent10.toNat) 1
  else ofRatio? negative digits (Nat.pow 10 (-exponent10).toNat)

/-- The sixty-four bits, read as a natural number. -/
def bits : Double → Nat
  | finite negative m => (if negative then signBit else 0) + m
  | infinity negative => (if negative then signBit else 0) + infinityMagnitude
  | nan => infinityMagnitude + leadingBit / 2

/-- Whether two doubles are the same number: zeros of either sign are, and so are two NaNs. -/
def sameNumber : Double → Double → Bool
  | finite s m, finite s' m' => (decide (m = m') && decide (s = s')) || (decide (m = 0) && decide (m' = 0))
  | infinity s, infinity s' => decide (s = s')
  | nan, nan => true
  | _, _ => false

end Double

end MangaPress
