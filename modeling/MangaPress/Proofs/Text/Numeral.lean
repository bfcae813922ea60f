/-
# Numerals and their digits

What `Text.ofNat` and `Text.ofInt` write is made of decimal digits, with a minus sign before them
for a negative number, and reads back to the same number. A text is read as an integer iff it is a
numeral (`IsNumeral`): digits, perhaps after a sign, and as many of them as there are.

Key definitions: `Text.decimalValue`, `Text.IsNumeral`.
Key theorems: `Text.isDigit_of_mem_ofNat`, `Text.eq_nil_of_ofNat_eq_cons`, `Text.length_ofNat_le`,
`Text.toNat?_ofNatPadded`, `Text.mem_ofInt`, `Text.bare_ofInt`, `Text.toInt?_ofInt`,
`Text.toInt?_eq_some_iff`.
-/
import MangaPress.Proofs.Text.Trim
import MangaPress.Text.Numeral
import Mathlib.Data.List.TakeWhile

namespace MangaPress.Text

theorem isDigit_digitChar {n : Nat} (h : n < 10) : isDigit (digitChar n) = true := by
  have key : ∀ m : Fin 10, isDigit (digitChar m) = true := by decide
  exact key ⟨n, h⟩

theorem isDigit_of_mem_ofNat {c : Char} {n : Nat} (h : c ∈ ofNat n) : isDigit c = true := by
  unfold ofNat at h
  fun_induction digitsBase 10 n with
  | case1 n hn =>
    rw [List.mem_singleton] at h
    rw [h]
    exact isDigit_digitChar (by omega)
  | case2 n hn ih =>
    rcases List.mem_append.mp h with h | h
    · exact ih h
    · rw [List.mem_singleton] at h
      rw [h]
      exact isDigit_digitChar (by omega)

theorem ofNat_ne_nil (n : Nat) : ofNat n ≠ [] :=
  digitsBase_ne_nil 10 n

/-- A numeral without a sign begins with a digit. -/
theorem exists_ofNat_eq_cons (n : Nat) : ∃ d ds, ofNat n = d :: ds ∧ isDigit d = true := by
  obtain ⟨d, ds, h⟩ := List.exists_cons_of_ne_nil (ofNat_ne_nil n)
  have hd : d ∈ ofNat n := by rw [h]; exact List.mem_cons_self
  exact ⟨d, ds, h, isDigit_of_mem_ofNat hd⟩

theorem ofNat_ne_cons {c : Char} (hc : isDigit c = false) (n : Nat) (rest : Text) :
    ofNat n ≠ c :: rest := by
  intro h
  have hdigit : isDigit c = true := isDigit_of_mem_ofNat (n := n) (h ▸ List.mem_cons_self)
  rw [hc] at hdigit
  cases hdigit

theorem takeWhile_ofNat (n : Nat) : (ofNat n).takeWhile isDigit = ofNat n :=
  List.takeWhile_eq_self_iff.mpr fun _ hc => isDigit_of_mem_ofNat hc

theorem dropWhile_ofNat (n : Nat) : (ofNat n).dropWhile isDigit = [] :=
  List.dropWhile_eq_nil_iff.mpr fun _ hc => isDigit_of_mem_ofNat hc

theorem head?_ofNat_ne {n : Nat} (h : 0 < n) : (ofNat n).head? ≠ some '0' := by
  unfold ofNat
  fun_induction digitsBase 10 n with
  | case1 n hn =>
    have key : ∀ m : Fin 10, 0 < m.val → digitChar m ≠ '0' := by decide
    intro he
    exact key ⟨n, by omega⟩ h (Option.some.inj he)
  | case2 n hn ih =>
    obtain ⟨d, ds, hd⟩ := List.exists_cons_of_ne_nil (digitsBase_ne_nil 10 (n / 10))
    rw [hd] at ih ⊢
    exact ih (by omega)

/-- Only the zero is written with a zero at its beginning. -/
theorem eq_nil_of_ofNat_eq_cons {n : Nat} {ds : Text} (h : ofNat n = '0' :: ds) : ds = [] := by
  rcases Nat.eq_zero_or_pos n with rfl | hn
  · have h0 : ofNat 0 = ['0'] := by
      rw [ofNat, digitsBase]
      rfl
    rw [h0] at h
    exact (List.cons.inj h).2.symm
  · exact absurd (by rw [h]; rfl) (head?_ofNat_ne hn)

theorem ofNat_inj {m n : Nat} : ofNat m = ofNat n ↔ m = n := by
  constructor
  · intro h
    have hr := toNat?_ofNat m
    rw [h, toNat?_ofNat] at hr
    exact (Option.some.inj hr).symm
  · intro h
    rw [h]

/-- A smaller number has no more digits. -/
theorem length_ofNat_le {m n : Nat} (h : m ≤ n) : (ofNat m).length ≤ (ofNat n).length := by
  unfold ofNat
  fun_induction digitsBase 10 m generalizing n with
  | case1 m hm => exact List.length_pos_iff.mpr (digitsBase_ne_nil 10 n)
  | case2 m hm ih =>
    have hn : ¬ (n < 10 ∨ 10 < 2) := by omega
    have hrest := ih (Nat.div_le_div_right h)
    rw [digitsBase.eq_def 10 n, if_neg hn, List.length_append, List.length_append]
    exact Nat.add_le_add_right hrest 1

/-! ### Padding -/

theorem length_ofNatPadded (width n : Nat) :
    (ofNatPadded width n).length = max width (ofNat n).length := by
  rw [ofNatPadded, List.length_append, List.length_replicate]
  omega

/-- Zeros before a number are read but change nothing. -/
theorem toNat?_ofNatPadded (width n : Nat) : toNat? (ofNatPadded width n) = some n := by
  have hzeros : ∀ k, readDigits 10 0 (List.replicate k '0') = some 0 := by
    intro k
    induction k with
    | zero => rfl
    | succ k ih => exact ih
  have hne : ofNatPadded width n ≠ [] := by
    intro h
    exact ofNat_ne_nil n (List.append_eq_nil_iff.mp h).2
  have hread : readDigits 10 0 (ofNatPadded width n) = some n := by
    rw [ofNatPadded, readDigits_append, hzeros, Option.bind_some]
    exact readDigits_digitsBase 10 (by decide) (by decide) n
  rw [toNat?, toNatBase?, if_neg (by simpa using hne), hread]

theorem ofNatPadded_inj {width m n : Nat} : ofNatPadded width m = ofNatPadded width n ↔ m = n := by
  constructor
  · intro h
    have hr := toNat?_ofNatPadded width m
    rw [h, toNat?_ofNatPadded] at hr
    exact (Option.some.inj hr).symm
  · intro h
    rw [h]

/-! ### Integers -/

/-- Reading the text of an integer gives the integer back. -/
theorem toInt?_ofInt : ∀ n : Int, toInt? (ofInt n) = some n
  | .ofNat n => by
    obtain ⟨d, ds, h, hd⟩ := exists_ofNat_eq_cons n
    have hm : d ≠ '-' := by rintro rfl; revert hd; decide
    have hp : d ≠ '+' := by rintro rfl; revert hd; decide
    have hr := toNat?_ofNat n
    rw [ofInt]
    rw [h] at hr ⊢
    rw [toInt?, hr, Option.map_some]
    · exact fun _ he => hm (List.cons.inj he).1
    · exact fun _ he => hp (List.cons.inj he).1
  | .negSucc n => by
    rw [ofInt, toInt?, toNat?_ofNat]
    rfl

theorem ofInt_inj {m n : Int} : ofInt m = ofInt n ↔ m = n := by
  constructor
  · intro h
    have hr := toInt?_ofInt m
    rw [h, toInt?_ofInt] at hr
    exact (Option.some.inj hr).symm
  · intro h
    rw [h]

theorem ofInt_ne_nil : ∀ n : Int, ofInt n ≠ []
  | .ofNat n => ofNat_ne_nil n
  | .negSucc _ => List.cons_ne_nil _ _

/-- The characters of an integer's text. -/
theorem mem_ofInt {c : Char} : ∀ {n : Int}, c ∈ ofInt n → c = '-' ∨ isDigit c = true
  | .ofNat _, h => .inr (isDigit_of_mem_ofNat h)
  | .negSucc n, h => by
    rw [ofInt, List.mem_cons] at h
    exact h.imp_right isDigit_of_mem_ofNat

theorem isBlank_of_isDigit {c : Char} (h : isDigit c = true) : isBlank c = false := by
  have hle : ∀ a b : Char, a ≤ b ↔ a.toNat ≤ b.toNat := fun _ _ => Iff.rfl
  have hcodes : '0'.toNat = 48 ∧ '9'.toNat = 57 := by decide
  simp only [isDigit, Bool.and_eq_true, decide_eq_true_iff, hle, hcodes] at h
  simp only [isBlank, blankCodes, List.contains_cons, List.contains_nil, Bool.or_false,
    Bool.or_eq_false_iff, beq_eq_false_iff_ne]
  omega

/-- No white space stands at the ends of the text of an integer, nor anywhere else in it. -/
theorem bare_ofInt (n : Int) : Bare (ofInt n) := by
  have hno : ∀ c ∈ ofInt n, isBlank c = false := by
    intro c hc
    rcases mem_ofInt hc with rfl | hdigit
    · rfl
    · exact isBlank_of_isDigit hdigit
  exact ⟨fun c hc => hno c (List.mem_of_mem_head? hc), fun c hc => hno c (List.mem_of_getLast? hc)⟩

/-- A word with a character that is neither a sign nor a digit is no integer's text. -/
theorem ofInt_ne_word {n : Int} {w : Text} (h : w.all (fun c => c == '-' || isDigit c) = false) :
    w ≠ ofInt n := by
  rintro rfl
  have hall : (ofInt n).all (fun c => c == '-' || isDigit c) = true := by
    simpa using fun c hc => mem_ofInt hc
  cases h.symm.trans hall

/-! ### What a numeral stands for -/

/-- The value of decimal digits. -/
def decimalValue (digits : Text) : Nat :=
  digits.foldl (fun n c => 10 * n + (c.toNat - '0'.toNat)) 0

/-- One decimal digit or more. -/
structure IsDecimal (t : Text) : Prop where
  ne_nil : t ≠ []
  digits : ∀ c ∈ t, isDigit c = true

/-- A numeral and its number: decimal digits, perhaps after a sign. -/
inductive IsNumeral : Text → Int → Prop where
  | plain {digits : Text} (h : IsDecimal digits) : IsNumeral digits (decimalValue digits)
  | plus {digits : Text} (h : IsDecimal digits) : IsNumeral ('+' :: digits) (decimalValue digits)
  | minus {digits : Text} (h : IsDecimal digits) :
    IsNumeral ('-' :: digits) (-(decimalValue digits : Int))

theorem digitValue?_ten (c : Char) :
    digitValue? 10 c = if isDigit c then some (c.toNat - '0'.toNat) else none := by
  have hle : ∀ a b : Char, a ≤ b ↔ a.toNat ≤ b.toNat := fun _ _ => Iff.rfl
  have hcodes : '0'.toNat = 48 ∧ '9'.toNat = 57 ∧ 'a'.toNat = 97 ∧ 'f'.toNat = 102 ∧
      'A'.toNat = 65 ∧ 'F'.toNat = 70 := by decide
  unfold digitValue? hexValue? isDigit
  simp only [hle]
  grind

theorem readDigits_ten (value : Nat) (t : Text) :
    readDigits 10 value t =
      if t.all isDigit then
        some (t.foldl (fun n c => 10 * n + (c.toNat - '0'.toNat)) value)
      else none := by
  induction t generalizing value with
  | nil => rfl
  | cons c t ih =>
    rw [readDigits, digitValue?_ten]
    by_cases hc : isDigit c = true
    · rw [if_pos hc]
      dsimp only
      rw [ih, Nat.mul_comm]
      simp [hc]
    · rw [if_neg hc]
      simp [hc]

theorem toNat?_eq_some_iff {t : Text} {n : Nat} :
    toNat? t = some n ↔ IsDecimal t ∧ decimalValue t = n := by
  unfold toNat? toNatBase?
  rw [readDigits_ten]
  constructor
  · intro h
    split at h
    · cases h
    · rename_i hne
      split at h
      · rename_i hdigits
        exact ⟨⟨by simpa using hne, List.all_eq_true.mp hdigits⟩, Option.some.inj h⟩
      · cases h
  · rintro ⟨⟨hne, hdigits⟩, rfl⟩
    rw [if_neg (by simpa using hne), if_pos (List.all_eq_true.mpr hdigits)]
    rfl

theorem IsDecimal.head_ne {c : Char} {t : Text} (h : IsDecimal (c :: t)) : c ≠ '+' ∧ c ≠ '-' := by
  have hc := h.digits c List.mem_cons_self
  constructor
  · rintro rfl
    exact absurd hc (by decide)
  · rintro rfl
    exact absurd hc (by decide)

/-- A text is read as an integer iff it is a numeral. -/
theorem toInt?_eq_some_iff {t : Text} {n : Int} : toInt? t = some n ↔ IsNumeral t n := by
  constructor
  · intro h
    unfold toInt? at h
    split at h
    · rename_i digits
      cases hm : toNat? digits with
      | none =>
        rw [hm] at h
        cases h
      | some m =>
        obtain ⟨hd, rfl⟩ := toNat?_eq_some_iff.mp hm
        rw [hm] at h
        cases h
        exact .minus hd
    · obtain ⟨m, hm, rfl⟩ := Option.map_eq_some_iff.mp h
      obtain ⟨hd, rfl⟩ := toNat?_eq_some_iff.mp hm
      exact .plus hd
    · obtain ⟨m, hm, rfl⟩ := Option.map_eq_some_iff.mp h
      obtain ⟨hd, rfl⟩ := toNat?_eq_some_iff.mp hm
      exact .plain hd
  · intro h
    cases h with
    | plain h =>
      have hn := toNat?_eq_some_iff.mpr ⟨h, rfl⟩
      unfold toInt?
      split
      · exact absurd rfl h.head_ne.2
      · exact absurd rfl h.head_ne.1
      · rw [hn]
        rfl
    | plus h => rw [toInt?, toNat?_eq_some_iff.mpr ⟨h, rfl⟩]; rfl
    | minus h => rw [toInt?, toNat?_eq_some_iff.mpr ⟨h, rfl⟩]; rfl

/-- A numeral without a sign is read as the same number where a sign may stand. -/
theorem toInt?_of_toNat? {t : Text} {n : Nat} (h : toNat? t = some n) :
    toInt? t = some (n : Int) := by
  obtain ⟨hdecimal, rfl⟩ := toNat?_eq_some_iff.mp h
  exact toInt?_eq_some_iff.mpr (.plain hdecimal)

end MangaPress.Text
