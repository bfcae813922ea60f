/-
# Printed integers in both notations

The decimal text of an integer of 64 bits is a plain scalar of YAML and a number of JSON, and in both
it stands for the integer. In neither is it anything else: it has no superfluous zero and no mark of
a base, and is none of the words of YAML.

Key theorems: `Yaml.Scalar.ofPlain?_ofInt`, `Json.ofSpelling?_ofInt`.
-/
import MangaPress.Json.Number
import MangaPress.Proofs.Page.Schema
import MangaPress.Yaml.Scalar

namespace MangaPress

/-! ### Plain scalars -/

namespace Yaml.Scalar

theorem magnitude?_ofNat (n : Nat) : magnitude? (Text.ofNat n) = some n := by
  have hzero : ∀ c rest, Text.ofNat n ≠ '0' :: c :: rest := fun c rest h =>
    absurd (Text.eq_nil_of_ofNat_eq_cons h) (List.cons_ne_nil c rest)
  have hbased : basedDigits? (Text.ofNat n) = none := by
    unfold basedDigits?
    split
    · exact absurd ‹_› (hzero _ _)
    · exact absurd ‹_› (hzero _ _)
    · exact absurd ‹_› (hzero _ _)
    · rfl
  have hsign : dropSign (Text.ofNat n) = Text.ofNat n := by
    unfold dropSign
    split
    · exact absurd ‹_› (Text.ofNat_ne_cons (by decide) n _)
    · exact absurd ‹_› (Text.ofNat_ne_cons (by decide) n _)
    · rfl
  have hleading : hasLeadingZero (Text.ofNat n) = false := by
    unfold hasLeadingZero
    rw [hsign]
    split
    · exact absurd ‹_› (hzero _ _)
    · rfl
  rw [magnitude?, hbased]
  simp only [hleading, Bool.false_eq_true, if_false, Text.toNat?_ofNat]

/-- Decimal digits are an integer if it fits in 64 bits without sign. -/
theorem int_ofNat {n : Nat} (h : n ≤ Text.maxWord64) : int (Text.ofNat n) = .value n := by
  unfold int
  split
  rename_i negative digits hsign
  split at hsign
  · exact absurd ‹_› (Text.ofNat_ne_cons (by decide) n _)
  · exact absurd ‹_› (Text.ofNat_ne_cons (by decide) n _)
  · cases hsign
    simp only [magnitude?_ofNat, Bool.false_eq_true, if_false, if_pos h]

/-- So they are after a minus sign if the integer fits with it. -/
theorem int_negative {n : Nat} (h : n ≤ 0x8000000000000000) :
    int ('-' :: Text.ofNat n) = .value (-(n : Int)) := by
  unfold int
  simp only [magnitude?_ofNat, if_true, if_pos h]

theorem int_ofInt {n : Int} (h : -0x8000000000000000 ≤ n ∧ n < 0x8000000000000000) :
    int (Text.ofInt n) = .value n := by
  cases n with
  | ofNat n =>
    rw [Int.ofNat_eq_natCast] at h ⊢
    have hmax : n ≤ Text.maxWord64 := by
      rw [Text.maxWord64]
      omega
    exact int_ofNat hmax
  | negSucc n =>
    have hmin : n + 1 ≤ 0x8000000000000000 := by omega
    exact int_negative hmin

theorem ofPlain?_ofInt {n : Int} (h : -0x8000000000000000 ≤ n ∧ n < 0x8000000000000000) :
    ofPlain? (Text.ofInt n) = some (.int n) := by
  have hno : ∀ w : String, w.toList.all (fun c => c == '-' || Text.isDigit c) = false →
      (w.toList == Text.ofInt n) = false := fun w hw => beq_false_of_ne (Text.ofInt_ne_word hw)
  have hempty : (Text.ofInt n).isEmpty = false := by simpa using Text.ofInt_ne_nil n
  have hnull : isNullWord (Text.ofInt n) = false := by
    simp only [isNullWord, List.any_cons, List.any_nil, Bool.or_false]
    rw [hno "null" rfl, hno "Null" rfl, hno "NULL" rfl, hno "~" rfl]
    rfl
  have hbool : bool? (Text.ofInt n) = none := by
    simp only [bool?, List.any_cons, List.any_nil, Bool.or_false]
    rw [hno "true" rfl, hno "True" rfl, hno "TRUE" rfl, hno "false" rfl, hno "False" rfl,
      hno "FALSE" rfl]
    rfl
  rw [ofPlain?, hempty, hnull, hbool, int_ofInt h]
  rfl

end Yaml.Scalar

/-! ### JSON numbers -/

namespace Json

/-- What the spelling of an integer is taken apart into. -/
theorem ofText_ofInt : ∀ n : Int, Spelling.ofText (Text.ofInt n) =
    { negative := decide (n < 0), whole := Text.ofNat n.natAbs, fraction := [], exponent := 0,
      plain := true }
  | .ofNat n => by
    unfold Spelling.ofText
    split
    rename_i negative unsigned hsign
    split at hsign
    · exact absurd ‹_› (Text.ofNat_ne_cons (by decide) n _)
    · cases hsign
      simp only [Text.ofInt, Text.takeWhile_ofNat, Text.dropWhile_ofNat]
      rfl
  | .negSucc n => by
    rw [decide_eq_true (Int.negSucc_lt_zero n), Int.natAbs_negSucc]
    unfold Spelling.ofText
    simp only [Text.ofInt, Text.takeWhile_ofNat, Text.dropWhile_ofNat]
    rfl

theorem digitsValue_ofNat (n : Nat) : digitsValue (Text.ofNat n) = n := by
  rw [digitsValue, Text.ofNat, Text.readDigits_digitsBase 10 (by decide) (by decide)]
  rfl

theorem ofSpelling?_ofInt {n : Int} (h : -0x8000000000000000 ≤ n ∧ n < 0x8000000000000000) :
    Number.ofSpelling? (Text.ofInt n) = some (.int n) := by
  unfold Number.ofSpelling?
  simp only [ofText_ofInt, digitsValue_ofNat, Bool.true_and]
  by_cases hn : n < 0
  · have hrange : Text.inInt64 n = true := Schema.inInt64_iff.mpr h
    have habs : -(n.natAbs : Int) = n := by omega
    have hpos : 0 < n.natAbs := by omega
    rw [decide_eq_true hn, decide_eq_true hpos, habs, hrange]
    rfl
  · have hmax : n.natAbs ≤ Text.maxWord64 := by
      rw [Text.maxWord64]
      omega
    have habs : (n.natAbs : Int) = n := by omega
    rw [decide_eq_false hn, decide_eq_true hmax, habs]
    rfl

end Json

end MangaPress
