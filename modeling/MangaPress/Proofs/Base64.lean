/-
# Base64 is read back

The value of each of the sixty-four characters is read back, and none of them is the padding. Hence
the text of a byte string, with one, two or no bytes in its last group, decodes to that byte string.

Key theorem: `Base64.decode?_encode`.
-/
import MangaPress.Base64

namespace MangaPress.Base64

theorem valueOf?_charOf {n : Nat} (h : n < 64) : valueOf? (charOf n) = some n := by
  have hall : ∀ n < 64, valueOf? (charOf n) = some n := by decide
  exact hall n h

theorem charOf_ne_padding {n : Nat} (h : n < 64) : charOf n ≠ '=' := by
  have hall : ∀ n < 64, charOf n ≠ '=' := by decide
  exact hall n h

/-! ### One group -/

theorem decodeGroup?_one (a : UInt8) :
    decodeGroup? true (charOf (a.toNat * 16 / 64)) (charOf (a.toNat * 16 % 64)) '=' '=' =
      some [a] := by
  have ha : a.toNat < 256 := a.toNat_lt
  unfold decodeGroup?
  rw [valueOf?_charOf (by omega), valueOf?_charOf (by omega)]
  have hsum : a.toNat * 16 / 64 * 64 + a.toNat * 16 % 64 = a.toNat * 16 := by omega
  simp [hsum]

theorem decodeGroup?_two (a b : UInt8) :
    let n := (a.toNat * 256 + b.toNat) * 4
    decodeGroup? true (charOf (n / 4096)) (charOf (n / 64 % 64)) (charOf (n % 64)) '=' =
      some [a, b] := by
  intro n
  have ha : a.toNat < 256 := a.toNat_lt
  have hb : b.toNat < 256 := b.toNat_lt
  have hn : n = (a.toNat * 256 + b.toNat) * 4 := rfl
  clear_value n
  unfold decodeGroup?
  rw [valueOf?_charOf (by omega), valueOf?_charOf (by omega), valueOf?_charOf (by omega)]
  have hsum : (n / 4096 * 64 + n / 64 % 64) * 64 + n % 64 = n := by omega
  have hfirst : n / 1024 = a.toNat := by omega
  have hsecond : n / 4 % 256 = b.toNat := by omega
  have hzero : n % 4 = 0 := by omega
  simp [hsum, hfirst, hsecond, hzero, charOf_ne_padding (show n % 64 < 64 by omega)]

theorem decodeGroup?_three (last : Bool) (a b c : UInt8) :
    let n := (a.toNat * 256 + b.toNat) * 256 + c.toNat
    decodeGroup? last (charOf (n / 262144)) (charOf (n / 4096 % 64)) (charOf (n / 64 % 64))
      (charOf (n % 64)) = some [a, b, c] := by
  intro n
  have ha : a.toNat < 256 := a.toNat_lt
  have hb : b.toNat < 256 := b.toNat_lt
  have hc : c.toNat < 256 := c.toNat_lt
  have hn : n = (a.toNat * 256 + b.toNat) * 256 + c.toNat := rfl
  clear_value n
  unfold decodeGroup?
  rw [valueOf?_charOf (by omega), valueOf?_charOf (by omega), valueOf?_charOf (by omega),
    valueOf?_charOf (by omega)]
  have hsum : ((n / 262144 * 64 + n / 4096 % 64) * 64 + n / 64 % 64) * 64 + n % 64 = n := by omega
  have hfirst : n / 65536 = a.toNat := by omega
  have hsecond : n / 256 % 256 = b.toNat := by omega
  have hthird : n % 256 = c.toNat := by omega
  simp [hsum, hfirst, hsecond, hthird, charOf_ne_padding (show n % 64 < 64 by omega)]

/-! ### All groups -/

/-- **What is encoded is read back.** -/
theorem decode?_encode (bytes : Bytes) : decode? (encode bytes) = some bytes := by
  fun_induction encode bytes with
  | case1 => rfl
  | case2 a n => simp [decode?, decodeGroup?_one, n]
  | case3 a b n => simp [decode?, decodeGroup?_two a b, n]
  | case4 a b c rest n ih => simp [decode?, decodeGroup?_three _ a b c, n, ih]

end MangaPress.Base64
