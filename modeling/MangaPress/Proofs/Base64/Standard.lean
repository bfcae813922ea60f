/-
# What a padded text stands for, bit by bit

The bits of a byte string, filled up with zeros, are cut into groups of six; each group is the place
of a character in the alphabet, and the text is filled up with padding to groups of four
(`Base64.IsEncoding`). Fewer than six zeros and fewer than four characters of padding are added, so a
byte string has one such text (`isEncoding_unique`). `encode` writes it, and `decode?` accepts it and
nothing else: no other padding, no foreign character, no bit that is not zero after the last byte.

Key definitions: `Base64.bits`, `Base64.Spells`, `Base64.IsEncoding`.
Key theorems: `Base64.isEncoding_iff`, `Base64.decode?_eq_some_iff`.
-/
import MangaPress.Proofs.Base64
import Mathlib.Data.List.Forall2

namespace MangaPress.Base64

/-! ### Bits -/

/-- The lowest bits of a number, the highest of them first. -/
def bits : Nat → Nat → List Bool
  | 0, _ => []
  | width + 1, n => n.testBit width :: bits width n

theorem length_bits : ∀ width n, (bits width n).length = width
  | 0, _ => rfl
  | width + 1, n => congrArg (· + 1) (length_bits width n)

section Size

variable {w size : Nat}

theorem bits_add (v : Nat) (hsize : 1 <<< w = size) (n : Nat) :
    bits (v + w) n = bits v (n / size) ++ bits w n := by
  rw [← hsize, Nat.one_shiftLeft]
  induction v with
  | zero => simp [bits]
  | succ v ih => rw [Nat.succ_add, bits, bits, ih, Nat.testBit_div_two_pow, List.cons_append]

/-- Higher bits do not matter. -/
theorem bits_mod (hsize : 1 <<< w = size) (n : Nat) : bits w (n % size) = bits w n := by
  have hlow : ∀ v ≤ w, bits v (n % size) = bits v n := by
    rw [← hsize, Nat.one_shiftLeft]
    intro v
    induction v with
    | zero => exact fun _ => rfl
    | succ v ih =>
      intro hv
      have hbit : v < w := hv
      rw [bits, bits, ih (Nat.le_of_succ_le hv), Nat.testBit_mod_two_pow]
      simp [hbit]
  exact hlow w (Nat.le_refl w)

/-- A number is known by its bits if it has no more of them. -/
theorem eq_of_bits_eq (hsize : 1 <<< w = size) {m n : Nat} (hm : m < size) (hn : n < size)
    (h : bits w m = bits w n) : m = n := by
  have hbit : ∀ v ≤ w, bits v m = bits v n → ∀ i < v, m.testBit i = n.testBit i := by
    intro v
    induction v with
    | zero => exact fun _ _ i hi => absurd hi (Nat.not_lt_zero i)
    | succ v ih =>
      intro hv he i hi
      obtain ⟨hhead, htail⟩ := List.cons.inj he
      rcases Nat.lt_or_eq_of_le (Nat.le_of_lt_succ hi) with hlt | rfl
      · exact ih (Nat.le_of_succ_le hv) htail i hlt
      · exact hhead
  rw [← hsize, Nat.one_shiftLeft] at hm hn
  refine Nat.eq_of_testBit_eq fun i => ?_
  rcases Nat.lt_or_ge i w with hi | hi
  · exact hbit w (Nat.le_refl w) h i hi
  · have hpow := Nat.pow_le_pow_right Nat.two_pos hi
    rw [Nat.testBit_lt_two_pow (Nat.lt_of_lt_of_le hm hpow),
      Nat.testBit_lt_two_pow (Nat.lt_of_lt_of_le hn hpow)]

/-- Numbers of the same width are known by their bits after one another. -/
theorem flatMap_bits_inj (hsize : 1 <<< w = size) : ∀ {ms ns : List Nat}, (∀ m ∈ ms, m < size) →
    (∀ n ∈ ns, n < size) → ms.length = ns.length → ms.flatMap (bits w) = ns.flatMap (bits w) →
    ms = ns
  | [], [], _, _, _, _ => rfl
  | m :: ms, n :: ns, hm, hn, hlen, h => by
    rw [List.flatMap_cons, List.flatMap_cons] at h
    obtain ⟨hhead, htail⟩ := List.append_inj h (by rw [length_bits, length_bits])
    obtain ⟨hm, hms⟩ := List.forall_mem_cons.mp hm
    obtain ⟨hn, hns⟩ := List.forall_mem_cons.mp hn
    rw [eq_of_bits_eq hsize hm hn hhead, flatMap_bits_inj hsize hms hns (Nat.succ.inj hlen) htail]

/-- The bits of a number that is put together from two. -/
theorem bits_mul_add (v : Nat) (hsize : 1 <<< w = size) {k : Nat} (m : Nat) (hk : k < size) :
    bits (v + w) (m * size + k) = bits v m ++ bits w k := by
  have hpos : 0 < size := Nat.lt_of_le_of_lt (Nat.zero_le k) hk
  have hhigh : (m * size + k) / size = m := by
    rw [Nat.mul_comm, Nat.mul_add_div hpos, Nat.div_eq_of_lt hk, Nat.add_zero]
  rw [bits_add v hsize, hhigh, ← bits_mod hsize (m * size + k), Nat.mul_comm, Nat.mul_add_mod,
    Nat.mod_eq_of_lt hk]

end Size

theorem bits_zero (w : Nat) : bits w 0 = List.replicate w false := by
  induction w with
  | zero => rfl
  | succ w ih => simp [bits, ih, List.replicate_succ]

theorem length_flatMap_bits (w : Nat) (ns : List Nat) :
    (ns.flatMap (bits w)).length = w * ns.length := by
  induction ns with
  | nil => rfl
  | cons n ns ih =>
    rw [List.flatMap_cons, List.length_append, length_bits, ih, List.length_cons, Nat.mul_succ,
      Nat.add_comm]

/-! ### The standard encoding -/

/-- The bits of a byte string. -/
def bitsOf (bytes : Bytes) : List Bool :=
  bytes.flatMap fun b => bits 8 b.toNat

/-- The text spells the byte string with characters at these places of the alphabet. -/
structure Spells (places : List Nat) (t : Text) (bytes : Bytes) : Prop where
  padded : ∃ digits padding, t = digits ++ List.replicate padding '=' ∧ padding < 4 ∧
    List.Forall₂ (fun place c => alphabet[place]? = some c) places digits
  whole : 4 ∣ t.length
  filled : ∃ zeros < 6, places.flatMap (bits 6) = bitsOf bytes ++ List.replicate zeros false

/-- The text is the standard padded encoding of the byte string. -/
def IsEncoding (t : Text) (bytes : Bytes) : Prop :=
  ∃ places, Spells places t bytes

theorem getElem?_alphabet (place : Nat) :
    alphabet[place]? = if place < 64 then some (charOf place) else none := by
  have hall : (List.range 64).map charOf = alphabet := by decide
  rw [← hall, List.getElem?_map]
  by_cases h : place < 64
  · rw [List.getElem?_range h, if_pos h]
    rfl
  · rw [List.getElem?_eq_none (by simpa using h), if_neg h]
    rfl

theorem getElem?_alphabet_eq_some_iff {place : Nat} {c : Char} :
    alphabet[place]? = some c ↔ place < 64 ∧ c = charOf place := by
  rw [getElem?_alphabet]
  by_cases h : place < 64 <;> simp [h, eq_comm]

/-- Characters at places of the alphabet are those that stand for numbers of six bits. -/
theorem forall₂_alphabet_iff {places : List Nat} {digits : Text} :
    List.Forall₂ (fun place c => alphabet[place]? = some c) places digits ↔
      (∀ place ∈ places, place < 64) ∧ digits = places.map charOf := by
  induction places generalizing digits with
  | nil => simp
  | cons place places ih =>
    rw [List.forall₂_cons_left_iff, List.forall_mem_cons, List.map_cons]
    constructor
    · rintro ⟨c, rest, hc, hrest, rfl⟩
      obtain ⟨hplace, rfl⟩ := getElem?_alphabet_eq_some_iff.mp hc
      obtain ⟨hplaces, rfl⟩ := ih.mp hrest
      exact ⟨⟨hplace, hplaces⟩, rfl⟩
    · rintro ⟨⟨hplace, hplaces⟩, rfl⟩
      exact ⟨_, _, getElem?_alphabet_eq_some_iff.mpr ⟨hplace, rfl⟩, ih.mpr ⟨hplaces, rfl⟩, rfl⟩

theorem length_bitsOf (bytes : Bytes) : (bitsOf bytes).length = 8 * bytes.length := by
  induction bytes with
  | nil => rfl
  | cons b bytes ih =>
    rw [bitsOf, List.flatMap_cons, List.length_append, length_bits, ← bitsOf, ih, List.length_cons]
    omega

/-- A byte string has one encoding. -/
theorem isEncoding_unique {t u : Text} {bytes : Bytes} (ht : IsEncoding t bytes)
    (hu : IsEncoding u bytes) : t = u := by
  obtain ⟨ps, ⟨ds, padding, rfl, hpadding, hds⟩, hwhole, zeros, hzeros, hbits⟩ := ht
  obtain ⟨qs, ⟨es, padding', rfl, hpadding', hes⟩, hwhole', zeros', hzeros', hbits'⟩ := hu
  obtain ⟨hps, rfl⟩ := forall₂_alphabet_iff.mp hds
  obtain ⟨hqs, rfl⟩ := forall₂_alphabet_iff.mp hes
  have hlength := congrArg List.length hbits
  have hlength' := congrArg List.length hbits'
  rw [length_flatMap_bits, List.length_append, length_bitsOf, List.length_replicate]
    at hlength hlength'
  rw [List.length_append, List.length_map, List.length_replicate] at hwhole hwhole'
  -- The bits fill the same number of groups of six, and these the same number of groups of four.
  have hzero : zeros = zeros' := by omega
  have hcount : ps.length = qs.length := by omega
  have hpad : padding = padding' := by omega
  subst hzero
  rw [flatMap_bits_inj (rfl : 1 <<< 6 = 64) hps hqs hcount (hbits.trans hbits'.symm), hpad]

/-! ### Writing -/

theorem bits_twelve (n : Nat) : bits 12 n = bits 6 (n / 64) ++ bits 6 n :=
  bits_add 6 (rfl : 1 <<< 6 = 64) n

theorem bits_eighteen (n : Nat) :
    bits 18 n = bits 6 (n / 4096) ++ bits 6 (n / 64) ++ bits 6 n := by
  have hsplit : bits 18 n = bits 6 (n / 4096) ++ bits 12 n :=
    bits_add 6 (rfl : 1 <<< 12 = 4096) n
  rw [hsplit, bits_twelve, List.append_assoc]

theorem bits_mod_sixtyFour (n : Nat) : bits 6 (n % 64) = bits 6 n :=
  bits_mod (rfl : 1 <<< 6 = 64) n

/-- The bits of two bytes. -/
theorem bits_sixteen (a b : UInt8) :
    bits 16 (a.toNat * 256 + b.toNat) = bits 8 a.toNat ++ bits 8 b.toNat :=
  bits_mul_add 8 (rfl : 1 <<< 8 = 256) a.toNat b.toNat_lt

/-- Three bytes make four numbers of six bits. -/
theorem bits_three (a b c : UInt8) :
    let n := (a.toNat * 256 + b.toNat) * 256 + c.toNat
    [n / 262144, n / 4096 % 64, n / 64 % 64, n % 64].flatMap (bits 6) = bitsOf [a, b, c] := by
  intro n
  have hbytes : bits 24 n = bits 8 a.toNat ++ bits 8 b.toNat ++ bits 8 c.toNat :=
    calc bits 24 n = bits 16 (a.toNat * 256 + b.toNat) ++ bits 8 c.toNat :=
        bits_mul_add 16 (rfl : 1 <<< 8 = 256) _ c.toNat_lt
      _ = bits 8 a.toNat ++ bits 8 b.toNat ++ bits 8 c.toNat := by rw [bits_sixteen]
  have hsixes : bits 24 n =
      bits 6 (n / 262144) ++ bits 6 (n / 4096) ++ bits 6 (n / 64) ++ bits 6 n :=
    calc bits 24 n = bits 6 (n / 262144) ++ bits 18 n :=
        bits_add 6 (rfl : 1 <<< 18 = 262144) n
      _ = bits 6 (n / 262144) ++ bits 6 (n / 4096) ++ bits 6 (n / 64) ++ bits 6 n := by
        rw [bits_eighteen, ← List.append_assoc, ← List.append_assoc]
  simp [bitsOf, bits_mod_sixtyFour, ← List.append_assoc, ← hsixes, hbytes]

/-- Two bytes make three numbers of six bits, of which the last ends in zeros. -/
theorem bits_two (a b : UInt8) :
    let n := (a.toNat * 256 + b.toNat) * 4
    [n / 4096, n / 64 % 64, n % 64].flatMap (bits 6) =
      bitsOf [a, b] ++ List.replicate 2 false := by
  intro n
  have hbytes : bits 18 n = bits 8 a.toNat ++ bits 8 b.toNat ++ List.replicate 2 false := by
    have hsum := bits_mul_add 16 (rfl : 1 <<< 2 = 4) (a.toNat * 256 + b.toNat) (Nat.zero_lt_succ 3)
    rw [Nat.add_zero, bits_sixteen, bits_zero] at hsum
    exact hsum
  simp [bitsOf, bits_mod_sixtyFour, ← List.append_assoc, ← bits_eighteen, hbytes]

/-- One byte makes two. -/
theorem bits_one (a : UInt8) :
    [a.toNat * 16 / 64, a.toNat * 16 % 64].flatMap (bits 6) =
      bitsOf [a] ++ List.replicate 4 false := by
  have hbytes : bits 12 (a.toNat * 16) = bits 8 a.toNat ++ List.replicate 4 false := by
    have hsum := bits_mul_add 8 (rfl : 1 <<< 4 = 16) a.toNat (Nat.zero_lt_succ 15)
    rw [Nat.add_zero, bits_zero] at hsum
    exact hsum
  have hsixes := bits_twelve (a.toNat * 16)
  simp_all [bitsOf, bits_mod_sixtyFour]

/-- What is written is the standard encoding. -/
theorem isEncoding_encode (bytes : Bytes) : IsEncoding (encode bytes) bytes := by
  fun_induction encode bytes with
  | case1 =>
    exact ⟨[], ⟨[], 0, rfl, by decide, .nil⟩, by simp, 0, by decide, rfl⟩
  | case2 a n =>
    have ha : a.toNat < 256 := a.toNat_lt
    refine ⟨[n / 64, n % 64], ⟨_, 2, rfl, by decide, forall₂_alphabet_iff.mpr ⟨?_, rfl⟩⟩,
      by simp, 4, by decide, bits_one a⟩
    simp only [List.forall_mem_cons, List.not_mem_nil, false_implies, implies_true, and_true, n]
    omega
  | case3 a b n =>
    have ha : a.toNat < 256 := a.toNat_lt
    have hb : b.toNat < 256 := b.toNat_lt
    refine ⟨[n / 4096, n / 64 % 64, n % 64],
      ⟨_, 1, rfl, by decide, forall₂_alphabet_iff.mpr ⟨?_, rfl⟩⟩, by simp, 2, by decide,
      bits_two a b⟩
    simp only [List.forall_mem_cons, List.not_mem_nil, false_implies, implies_true, and_true, n]
    omega
  | case4 a b c rest n ih =>
    have ha : a.toNat < 256 := a.toNat_lt
    have hb : b.toNat < 256 := b.toNat_lt
    have hc : c.toNat < 256 := c.toNat_lt
    obtain ⟨places, ⟨digits, padding, hpadded, hpadding, hdigits⟩, hwhole, zeros, hzeros, hbits⟩ := ih
    obtain ⟨hplaces, rfl⟩ := forall₂_alphabet_iff.mp hdigits
    refine ⟨[n / 262144, n / 4096 % 64, n / 64 % 64, n % 64] ++ places,
      ⟨_, padding, ?_, hpadding, forall₂_alphabet_iff.mpr ⟨?_, rfl⟩⟩, ?_, zeros, hzeros, ?_⟩
    · simp [hpadded]
    · refine List.forall_mem_append.mpr ⟨?_, hplaces⟩
      simp only [List.forall_mem_cons, List.not_mem_nil, false_implies, implies_true, and_true, n]
      omega
    · simp only [List.length_cons]
      omega
    · have hgroup : bitsOf (a :: b :: c :: rest) = bitsOf [a, b, c] ++ bitsOf rest := by
        simp [bitsOf]
      rw [List.flatMap_append, hbits, bits_three, hgroup, List.append_assoc]

/-- **The standard encoding is what is written.** -/
theorem isEncoding_iff {t : Text} {bytes : Bytes} : IsEncoding t bytes ↔ t = encode bytes := by
  constructor
  · exact fun h => isEncoding_unique h (isEncoding_encode bytes)
  · rintro rfl
    exact isEncoding_encode bytes

/-! ### Reading -/

theorem charOf_of_valueOf? {c : Char} {n : Nat} (h : valueOf? c = some n) :
    n < 64 ∧ charOf n = c := by
  have hle : ∀ a b : Char, a ≤ b ↔ a.toNat ≤ b.toNat := fun _ _ => Iff.rfl
  have hcodes : 'A'.toNat = 65 ∧ 'Z'.toNat = 90 ∧ 'a'.toNat = 97 ∧ 'z'.toNat = 122 ∧
      '0'.toNat = 48 ∧ '9'.toNat = 57 := by decide
  have hself : ∀ m, m = c.toNat → Char.ofNat m = c := by
    rintro _ rfl
    exact Char.ofNat_toNat c
  unfold valueOf? at h
  simp only [hle] at h
  unfold charOf
  split_ifs at h with hupper hlower hdigit hplus hslash <;> cases h
  · refine ⟨by omega, ?_⟩
    rw [if_pos (by omega)]
    exact hself _ (by omega)
  · refine ⟨by omega, ?_⟩
    rw [if_neg (by omega), if_pos (by omega)]
    exact hself _ (by omega)
  · refine ⟨by omega, ?_⟩
    rw [if_neg (by omega), if_neg (by omega), if_pos (by omega)]
    exact hself _ (by omega)
  · exact ⟨by decide, hplus.symm⟩
  · exact ⟨by decide, hslash.symm⟩

theorem toNat_byte {n : Nat} (h : n < 256) : (UInt8.ofNat n).toNat = n :=
  UInt8.toNat_ofNat_of_lt' h

/-- A group of characters is decoded to the bytes for which it is written; they are three, or else
the group is the last one. -/
theorem encode_of_decodeGroup? {last : Bool} {c₀ c₁ c₂ c₃ : Char} {bytes : Bytes}
    (h : decodeGroup? last c₀ c₁ c₂ c₃ = some bytes) :
    encode bytes = [c₀, c₁, c₂, c₃] ∧ (bytes.length = 3 ∨ last = true) := by
  unfold decodeGroup? at h
  simp only [Option.bind_eq_bind, Option.bind_eq_some_iff] at h
  obtain ⟨x₀, h₀, x₁, h₁, h⟩ := h
  obtain ⟨hx₀, rfl⟩ := charOf_of_valueOf? h₀
  obtain ⟨hx₁, rfl⟩ := charOf_of_valueOf? h₁
  split at h
  · rename_i hlast
    obtain ⟨hlast, rfl⟩ := hlast
    refine ⟨?_, .inr hlast⟩
    split at h
    · -- The last four bits are zeros.
      rename_i hpadding
      subst hpadding
      split at h <;> cases h
      have hbyte : (UInt8.ofNat ((x₀ * 64 + x₁) / 16)).toNat * 16 = x₀ * 64 + x₁ := by
        rw [toNat_byte (by omega)]
        omega
      have hfirst : (x₀ * 64 + x₁) / 64 = x₀ := by omega
      have hsecond : (x₀ * 64 + x₁) % 64 = x₁ := by omega
      rw [encode, hbyte, hfirst, hsecond]
    · -- The last two bits are zeros.
      simp only [Option.bind_eq_some_iff] at h
      obtain ⟨x₂, h₂, h⟩ := h
      obtain ⟨hx₂, rfl⟩ := charOf_of_valueOf? h₂
      have hn : (x₀ * 64 + x₁) * 64 + x₂ < 262144 := by omega
      have hfirst : ((x₀ * 64 + x₁) * 64 + x₂) / 4096 = x₀ := by omega
      have hsecond : ((x₀ * 64 + x₁) * 64 + x₂) / 64 % 64 = x₁ := by omega
      have hthird : ((x₀ * 64 + x₁) * 64 + x₂) % 64 = x₂ := by omega
      generalize (x₀ * 64 + x₁) * 64 + x₂ = n at h hn hfirst hsecond hthird
      split at h <;> cases h
      have hbytes : ((UInt8.ofNat (n / 1024)).toNat * 256 +
          (UInt8.ofNat (n / 4 % 256)).toNat) * 4 = n := by
        rw [toNat_byte (by omega), toNat_byte (by omega)]
        omega
      rw [encode, hbytes, hfirst, hsecond, hthird]
  · simp only [Option.bind_eq_some_iff] at h
    obtain ⟨x₂, h₂, x₃, h₃, h⟩ := h
    obtain ⟨hx₂, rfl⟩ := charOf_of_valueOf? h₂
    obtain ⟨hx₃, rfl⟩ := charOf_of_valueOf? h₃
    have hn : ((x₀ * 64 + x₁) * 64 + x₂) * 64 + x₃ < 16777216 := by omega
    have hfirst : (((x₀ * 64 + x₁) * 64 + x₂) * 64 + x₃) / 262144 = x₀ := by omega
    have hsecond : (((x₀ * 64 + x₁) * 64 + x₂) * 64 + x₃) / 4096 % 64 = x₁ := by omega
    have hthird : (((x₀ * 64 + x₁) * 64 + x₂) * 64 + x₃) / 64 % 64 = x₂ := by omega
    have hfourth : (((x₀ * 64 + x₁) * 64 + x₂) * 64 + x₃) % 64 = x₃ := by omega
    generalize ((x₀ * 64 + x₁) * 64 + x₂) * 64 + x₃ = n at h hn hfirst hsecond hthird hfourth
    cases h
    have hbytes : ((UInt8.ofNat (n / 65536)).toNat * 256 +
        (UInt8.ofNat (n / 256 % 256)).toNat) * 256 + (UInt8.ofNat (n % 256)).toNat = n := by
      rw [toNat_byte (by omega), toNat_byte (by omega), toNat_byte (by omega)]
      omega
    refine ⟨?_, .inl rfl⟩
    rw [encode, hbytes, hfirst, hsecond, hthird, hfourth, encode]

theorem encode_append_of_three {bytes : Bytes} (h : bytes.length = 3) (rest : Bytes) :
    encode (bytes ++ rest) = encode bytes ++ encode rest := by
  obtain ⟨a, b, c, rfl⟩ := List.length_eq_three.mp h
  simp [encode]

/-- What is read is what was written. -/
theorem eq_encode_of_decode? {t : Text} {bytes : Bytes} (h : decode? t = some bytes) :
    t = encode bytes := by
  fun_induction decode? t generalizing bytes with
  | case1 =>
    cases h
    rfl
  | case2 c₀ c₁ c₂ c₃ rest ih =>
    simp only [Option.bind_eq_bind, Option.bind_eq_some_iff] at h
    obtain ⟨group, hgroup, more, hmore, h⟩ := h
    cases h
    obtain ⟨hencode, hthree | hlast⟩ := encode_of_decodeGroup? hgroup
    · rw [encode_append_of_three hthree, hencode, ← ih hmore]
      rfl
    · rw [List.isEmpty_iff.mp hlast] at hmore ⊢
      cases hmore
      rw [List.append_nil, hencode]
  | case3 => cases h

/-- **A text is read iff it is the standard encoding of a byte string**, and it is read as this byte
string. -/
theorem decode?_eq_some_iff {t : Text} {bytes : Bytes} :
    decode? t = some bytes ↔ IsEncoding t bytes := by
  rw [isEncoding_iff]
  constructor
  · exact eq_encode_of_decode?
  · rintro rfl
    exact decode?_encode bytes

end MangaPress.Base64
