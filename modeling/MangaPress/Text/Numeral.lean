/-
# Decimal numerals

`ofNat` and `ofInt` write a number in decimal digits without superfluous zeros; `toNat?` reads a
non-empty run of digits in any base up to sixteen, and `toInt?` an optional sign before decimal
digits. Leading zeros are read but never written.

Key theorems: `digitValue?_digitChar`, `toNat?_ofNat`.
-/
import MangaPress.Text.Basic

namespace MangaPress.Text

/-- The digit for a value below sixteen, with lower-case letters from ten on. -/
def digitChar (n : Nat) : Char :=
  if n < 10 then Char.ofNat (0x30 + n) else Char.ofNat (0x57 + n)

/-- The value of a digit, letters of either case counting from ten on. -/
def hexValue? (c : Char) : Option Nat :=
  if '0' ≤ c ∧ c ≤ '9' then some (c.toNat - 0x30)
  else if 'a' ≤ c ∧ c ≤ 'f' then some (c.toNat - 0x57)
  else if 'A' ≤ c ∧ c ≤ 'F' then some (c.toNat - 0x37)
  else none

/-- The value of a digit of the base. -/
def digitValue? (base : Nat) (c : Char) : Option Nat :=
  (hexValue? c).filter (· < base)

/-- An ASCII decimal digit. -/
def isDigit (c : Char) : Bool :=
  decide ('0' ≤ c) && decide (c ≤ '9')

/-- Continues reading digits after the value read so far. -/
def readDigits (base : Nat) (value : Nat) : Text → Option Nat
  | [] => some value
  | c :: rest =>
    match digitValue? base c with
    | none => none
    | some d => readDigits base (value * base + d) rest

/-- The value of a non-empty text of digits of the base. -/
def toNatBase? (base : Nat) (t : Text) : Option Nat :=
  if t.isEmpty then none else readDigits base 0 t

/-- The value of a non-empty text of decimal digits. -/
def toNat? (t : Text) : Option Nat :=
  toNatBase? 10 t

/-- The value of an optional sign followed by decimal digits. -/
def toInt? : Text → Option Int
  | '-' :: digits => (toNat? digits).map fun n => -(n : Int)
  | '+' :: digits => (toNat? digits).map Int.ofNat
  | digits => (toNat? digits).map Int.ofNat

/-- The digits of a number in the base. -/
def digitsBase (base : Nat) (n : Nat) : Text :=
  if n < base ∨ base < 2 then [digitChar n]
  else digitsBase base (n / base) ++ [digitChar (n % base)]
termination_by n
decreasing_by
  exact Nat.div_lt_self (by omega) (by omega)

/-- The decimal digits of a number. -/
def ofNat (n : Nat) : Text :=
  digitsBase 10 n

/-- A number in decimal digits, with a minus sign if it is negative. -/
def ofInt : Int → Text
  | .ofNat n => ofNat n
  | .negSucc n => '-' :: ofNat (n + 1)

/-- The number in decimal digits, with zeros before it up to the width. -/
def ofNatPadded (width n : Nat) : Text :=
  let digits := ofNat n
  List.replicate (width - digits.length) '0' ++ digits

/-- The largest number of 64 bits without sign. -/
def maxWord64 : Nat := 0xFFFFFFFFFFFFFFFF

/-- The numbers of a 64-bit signed integer. -/
def inInt64 (n : Int) : Bool :=
  decide (-0x8000000000000000 ≤ n) && decide (n ≤ 0x7FFFFFFFFFFFFFFF)

theorem digitValue?_digitChar {base n : Nat} (hn : n < base) (hb : base ≤ 16) :
    digitValue? base (digitChar n) = some n := by
  have h16 : n < 16 := by omega
  have key : ∀ m : Fin 16, hexValue? (digitChar m) = some m.val := by decide
  have := key ⟨n, h16⟩
  simp only at this
  simp [digitValue?, this, Option.filter, hn]

theorem readDigits_append (base value : Nat) (s t : Text) :
    readDigits base value (s ++ t) = (readDigits base value s).bind (readDigits base · t) := by
  induction s generalizing value with
  | nil => rfl
  | cons c s ih =>
    simp only [List.cons_append, readDigits]
    cases digitValue? base c with
    | none => rfl
    | some d => exact ih _

theorem digitsBase_ne_nil (base n : Nat) : digitsBase base n ≠ [] := by
  unfold digitsBase
  split <;> simp

/-- Reading the digits of a number gives the number back. -/
theorem readDigits_digitsBase (base : Nat) (h2 : 2 ≤ base) (h16 : base ≤ 16) (n : Nat) :
    readDigits base 0 (digitsBase base n) = some n := by
  fun_induction digitsBase base n with
  | case1 n h =>
    have hn : n < base := by omega
    simp [readDigits, digitValue?_digitChar hn h16]
  | case2 n h ih =>
    have hm : n % base < base := Nat.mod_lt _ (by omega)
    rw [readDigits_append, ih]
    simp [readDigits, digitValue?_digitChar hm h16, Nat.div_add_mod']

theorem toNat?_ofNat (n : Nat) : toNat? (ofNat n) = some n := by
  have h : (digitsBase 10 n).isEmpty = false := by
    simp [digitsBase_ne_nil]
  simp [toNat?, toNatBase?, ofNat, h, readDigits_digitsBase 10 (by omega) (by omega)]

end MangaPress.Text
