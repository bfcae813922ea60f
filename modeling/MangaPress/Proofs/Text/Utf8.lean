/-
# Reading what was encoded

`Text.decodeMarked` gives back the characters of an encoded text, one for each, and marks nothing:
the bytes of a character are read as this character whatever follows them.

Key theorems: `Text.decodeChar?_encodeChar_append`, `Text.decodeMarked_encode`.
-/
import MangaPress.Text.Utf8
import Mathlib.Data.List.Flatten
import Mathlib.Tactic.SplitIfs

namespace MangaPress.Text

theorem toNat_ofNat_of_lt {n : Nat} (h : n < 256) : (UInt8.ofNat n).toNat = n := by
  rw [UInt8.toNat_ofNat']
  exact Nat.mod_eq_of_lt h

theorem continuationBits?_ofNat {n : Nat} (h : n < 64) :
    continuationBits? (UInt8.ofNat (0x80 + n)) = some n := by
  unfold continuationBits?
  rw [toNat_ofNat_of_lt (by omega), if_pos (by omega)]
  exact congrArg some (by omega)

theorem charFrom?_toNat {c : Char} {least : Nat} (h : least ≤ c.toNat) :
    charFrom? least c.toNat = some c := by
  unfold charFrom?
  rw [if_pos ⟨h, c.valid⟩, Char.ofNat_toNat]

/-- The bytes of a character are read as this character. -/
theorem decodeChar?_encodeChar_append (c : Char) (rest : Bytes) :
    decodeChar? (encodeChar c ++ rest) = some (c, (encodeChar c).length) := by
  have hlt : c.toNat < 0x110000 := by
    rcases c.valid with h | h
    · exact Nat.lt_trans h (by decide)
    · exact h.2
  unfold encodeChar
  by_cases h1 : c.toNat < 0x80
  · rw [if_pos h1, List.singleton_append]
    unfold decodeChar?
    dsimp only
    rw [toNat_ofNat_of_lt (by omega), if_pos h1, Char.ofNat_toNat]
    rfl
  by_cases h2 : c.toNat < 0x800
  · rw [if_neg h1, if_pos h2]
    have hsum : (0xC0 + c.toNat / 64 - 0xC0) * 64 + c.toNat % 64 = c.toNat := by omega
    simp only [List.cons_append, List.nil_append, decodeChar?]
    rw [toNat_ofNat_of_lt (by omega), if_neg (by omega), if_neg (by omega), if_pos (by omega),
      continuationBits?_ofNat (by omega), Option.bind_eq_bind, Option.bind_some, hsum,
      charFrom?_toNat (by omega)]
    rfl
  by_cases h3 : c.toNat < 0x10000
  · rw [if_neg h1, if_neg h2, if_pos h3]
    have hsum : ((0xE0 + c.toNat / 4096 - 0xE0) * 64 + c.toNat / 64 % 64) * 64 + c.toNat % 64 =
        c.toNat := by omega
    simp only [List.cons_append, List.nil_append, decodeChar?]
    rw [toNat_ofNat_of_lt (by omega), if_neg (by omega), if_neg (by omega), if_neg (by omega),
      if_pos (by omega), continuationBits?_ofNat (by omega), continuationBits?_ofNat (by omega)]
    simp only [Option.bind_eq_bind, Option.bind_some]
    rw [hsum, charFrom?_toNat (by omega)]
    rfl
  · rw [if_neg h1, if_neg h2, if_neg h3]
    have hsum : (((0xF0 + c.toNat / 262144 - 0xF0) * 64 + c.toNat / 4096 % 64) * 64 +
        c.toNat / 64 % 64) * 64 + c.toNat % 64 = c.toNat := by omega
    simp only [List.cons_append, List.nil_append, decodeChar?]
    rw [toNat_ofNat_of_lt (by omega), if_neg (by omega), if_neg (by omega), if_neg (by omega),
      if_neg (by omega), if_pos (by omega), continuationBits?_ofNat (by omega),
      continuationBits?_ofNat (by omega), continuationBits?_ofNat (by omega)]
    simp only [Option.bind_eq_bind, Option.bind_some]
    rw [hsum, charFrom?_toNat (by omega)]
    rfl

theorem encodeChar_ne_nil (c : Char) : encodeChar c ≠ [] := by
  unfold encodeChar
  dsimp only
  split_ifs <;> exact List.cons_ne_nil _ _

theorem decodeMarked_encodeChar_append (c : Char) (rest : Bytes) :
    decodeMarked (encodeChar c ++ rest) = some c :: decodeMarked rest := by
  have hd := decodeChar?_encodeChar_append c rest
  obtain ⟨b, bs, hb⟩ := List.exists_cons_of_ne_nil (encodeChar_ne_nil c)
  rw [hb, List.cons_append] at hd
  rw [hb, List.cons_append, decodeMarked, hd]
  dsimp only
  rw [List.length_cons, Nat.add_sub_cancel, List.drop_left]

/-- Nothing is lost on the way to bytes and back, and no byte is marked. -/
theorem decodeMarked_encode : ∀ t : Text, decodeMarked (encode t) = t.map some
  | [] => by rw [encode, List.flatMap_nil, decodeMarked, List.map_nil]
  | c :: t => by
    have ih := decodeMarked_encode t
    unfold encode at ih ⊢
    rw [List.flatMap_cons, decodeMarked_encodeChar_append, ih, List.map_cons]

/-- A choice of the characters takes no more bytes. -/
theorem utf8Length_le_of_sublist {s t : Text} (h : s.Sublist t) : utf8Length s ≤ utf8Length t :=
  (h.flatMap encodeChar).length_le

theorem utf8Length_append (s t : Text) : utf8Length (s ++ t) = utf8Length s + utf8Length t := by
  rw [utf8Length, encode, List.flatMap_append, List.length_append]
  rfl

/-- An ASCII text takes one byte for each character. -/
theorem utf8Length_of_ascii {t : Text} (h : ∀ c ∈ t, c.toNat < 0x80) : utf8Length t = t.length := by
  induction t with
  | nil => rfl
  | cons c t ih =>
    have hc : (encodeChar c).length = 1 := by
      unfold encodeChar
      dsimp only
      rw [if_pos (h c List.mem_cons_self), List.length_singleton]
    have hrest : utf8Length t = t.length := ih fun d hd => h d (List.mem_cons_of_mem c hd)
    rw [utf8Length, encode] at hrest ⊢
    rw [List.flatMap_cons, List.length_append, hc, hrest, List.length_cons, Nat.add_comm]

end MangaPress.Text
