/-
# Reading a form back

`Form.decode?` reads a name or a value of a query as readers of forms do: a plus sign is a space, a
percent sign with two hexadecimal digits is a byte, and the bytes are UTF-8. It gives back every text
that `Form.encode` wrote (`Form.decode?_encode`), so texts that differ are written differently. What
is written has none of the signs by which a query is taken apart, so a query of one pair is read as
this pair alone (`Form.pairs_pair`).

Key definitions: `Form.decodeBytes`, `Form.decode?`, `Form.pairs`, `Form.Encoded`.
Key theorems: `Form.decode?_encode`, `Form.encode_injective`, `Form.encoded_encode`,
`Form.pairs_pair`.
-/
import MangaPress.Proofs.Text.Split
import MangaPress.Proofs.Text.Utf8
import MangaPress.Web.Form

namespace MangaPress.Web

/-! ### The digits of a byte -/

theorem hexValue?_upperHexDigit : ∀ n < 16, Text.hexValue? (upperHexDigit n) = some n := by
  decide

theorem upperHexDigit_mem : ∀ n < 16, upperHexDigit n ∈ "0123456789ABCDEF".toList := by
  decide

theorem of_mem_percentByte {b : UInt8} {c : Char} (h : c ∈ percentByte b) :
    c = '%' ∨ c ∈ "0123456789ABCDEF".toList := by
  have hlt := b.toNat_lt
  simp only [percentByte, List.mem_cons, List.not_mem_nil, or_false] at h
  rcases h with rfl | rfl | rfl
  · exact .inl rfl
  · exact .inr (upperHexDigit_mem _ (by omega))
  · exact .inr (upperHexDigit_mem _ (by omega))

namespace Form

/-- The byte that two hexadecimal digits stand for. -/
def hexByte? (high low : Char) : Option UInt8 := do
  let h ← Text.hexValue? high
  let l ← Text.hexValue? low
  some (UInt8.ofNat (h * 16 + l))

theorem hexByte?_digits (b : UInt8) :
    hexByte? (upperHexDigit (b.toNat / 16)) (upperHexDigit (b.toNat % 16)) = some b := by
  have hlt : b.toNat < 256 := b.toNat_lt
  have hsum : b.toNat / 16 * 16 + b.toNat % 16 = b.toNat := by omega
  rw [hexByte?, hexValue?_upperHexDigit _ (by omega), hexValue?_upperHexDigit _ (by omega)]
  simp only [Option.bind_eq_bind, Option.bind_some, hsum, UInt8.ofNat_toNat]

/-! ### Reading -/

/-- The bytes of a name or value of a query. A percent sign without two digits after it is taken as
it is. -/
def decodeBytes : Text → Bytes
  | [] => []
  | '+' :: rest => 0x20 :: decodeBytes rest
  | '%' :: high :: low :: rest =>
    match hexByte? high low with
    | some b => b :: decodeBytes rest
    | none => Text.encodeChar '%' ++ decodeBytes (high :: low :: rest)
  | c :: rest => Text.encodeChar c ++ decodeBytes rest

/-- A name or value of a query, if its bytes are well-formed. -/
def decode? (t : Text) : Option Text :=
  Text.decode? (decodeBytes t)

/-- The pairs of a query. A piece without an equals sign is a name with an empty value, and an empty
piece is none. -/
def pairs (query : Text) : List (Option Text × Option Text) :=
  ((Text.splitOn '&' query).filter fun piece => !piece.isEmpty).map fun piece =>
    let (name, value) := (Text.splitOnce '=' piece).getD (piece, [])
    (decode? name, decode? value)

theorem decodeBytes_cons {c : Char} (hplus : c ≠ '+') (hpercent : c ≠ '%') (rest : Text) :
    decodeBytes (c :: rest) = Text.encodeChar c ++ decodeBytes rest := by
  rw [decodeBytes]
  · exact hplus
  · exact fun _ _ _ h _ => hpercent h

/-! ### What is written -/

/-- The characters that stand for a byte each: the letters and digits of ASCII, and five signs. -/
def IsSingle (c : Char) : Prop :=
  c.isAlphanum = true ∨ c ∈ "*-._+".toList

instance : DecidablePred IsSingle :=
  fun c => inferInstanceAs (Decidable (c.isAlphanum = true ∨ c ∈ "*-._+".toList))

/-- A text of single characters and of percent signs with two upper-case hexadecimal digits. -/
inductive Encoded : Text → Prop where
  | nil : Encoded []
  | single {c : Char} {rest : Text} (hc : IsSingle c) (h : Encoded rest) : Encoded (c :: rest)
  | percent {high low : Char} {rest : Text} (hhigh : high ∈ "0123456789ABCDEF".toList)
    (hlow : low ∈ "0123456789ABCDEF".toList) (h : Encoded rest) :
    Encoded ('%' :: high :: low :: rest)

theorem Encoded.append {s t : Text} (hs : Encoded s) (ht : Encoded t) : Encoded (s ++ t) := by
  induction hs with
  | nil => exact ht
  | single hc _ ih => exact .single hc ih
  | percent hhigh hlow _ ih => exact .percent hhigh hlow ih

/-- A byte that stands for itself is a single character other than the plus sign. -/
theorem plainByte_spec {b : UInt8} (h : isPlainByte b = true) :
    IsSingle (Char.ofNat b.toNat) ∧ Char.ofNat b.toNat ≠ '+' ∧ Char.ofNat b.toNat ≠ '%' ∧
      Text.encodeChar (Char.ofNat b.toNat) = [b] := by
  have key : ∀ n : Fin 256, isPlainByte (UInt8.ofNat n) = true →
      ((Char.ofNat n).isAlphanum = true ∨ Char.ofNat n ∈ "*-._+".toList) ∧
        Char.ofNat n ≠ '+' ∧ Char.ofNat n ≠ '%' ∧
        Text.encodeChar (Char.ofNat n) = [UInt8.ofNat n] := by decide +kernel
  have hb := key ⟨b.toNat, b.toNat_lt⟩
  simp only [UInt8.ofNat_toNat] at hb
  exact hb h

/-- A byte is written as the grammar has it and read back, whatever follows. -/
theorem encodeByte_spec (b : UInt8) :
    Encoded (encodeByte b) ∧ ∀ rest, decodeBytes (encodeByte b ++ rest) = b :: decodeBytes rest := by
  have hlt : b.toNat < 256 := b.toNat_lt
  unfold encodeByte
  by_cases hspace : b = 0x20
  · subst hspace
    exact ⟨.single (.inr (by decide)) .nil, fun rest => rfl⟩
  rw [if_neg (by simpa using hspace)]
  by_cases hplain : isPlainByte b = true
  · obtain ⟨hsingle, hplus, hpercent, hbyte⟩ := plainByte_spec hplain
    rw [if_pos hplain]
    refine ⟨.single hsingle .nil, fun rest => ?_⟩
    rw [List.singleton_append, decodeBytes_cons hplus hpercent, hbyte, List.singleton_append]
  · have hhigh := upperHexDigit_mem (b.toNat / 16) (by omega)
    have hlow := upperHexDigit_mem (b.toNat % 16) (by omega)
    rw [if_neg hplain]
    refine ⟨.percent hhigh hlow .nil, fun rest => ?_⟩
    simp only [percentByte, List.cons_append, List.nil_append, decodeBytes, hexByte?_digits]

theorem encoded_encode (t : Text) : Encoded (encode t) := by
  unfold encode
  induction Text.encode t with
  | nil => exact .nil
  | cons b bytes ih =>
    rw [List.flatMap_cons]
    exact (encodeByte_spec b).1.append ih

/-! ### Reading what was written -/

theorem decodeBytes_encode (t : Text) : decodeBytes (encode t) = Text.encode t := by
  unfold encode
  induction Text.encode t with
  | nil => rfl
  | cons b bytes ih => rw [List.flatMap_cons, (encodeByte_spec b).2, ih]

theorem decode?_encode (t : Text) : decode? (encode t) = some t := by
  have hall : ∀ s : Text, (s.map some).mapM id = some s := fun s => by
    induction s with
    | nil => rfl
    | cons c s ih => rw [List.map_cons, List.mapM_cons, ih]; rfl
  rw [decode?, decodeBytes_encode, Text.decode?, Text.decodeMarked_encode, hall]

/-- Texts that differ are written differently. -/
theorem encode_injective : Function.Injective encode := by
  intro s t h
  have hread : decode? (encode s) = decode? (encode t) := congrArg decode? h
  rw [decode?_encode, decode?_encode] at hread
  exact Option.some.inj hread

theorem Encoded.of_mem {t : Text} (h : Encoded t) {c : Char} (hc : c ∈ t) :
    IsSingle c ∨ c = '%' := by
  have hdigit : ∀ d ∈ "0123456789ABCDEF".toList, d.isAlphanum = true :=
    List.all_eq_true.mp (by decide)
  induction h with
  | nil => exact absurd hc List.not_mem_nil
  | single hd _ ih =>
    rcases List.mem_cons.mp hc with rfl | hc
    · exact .inl hd
    · exact ih hc
  | percent hhigh hlow _ ih =>
    simp only [List.mem_cons] at hc
    rcases hc with rfl | rfl | rfl | hc
    · exact .inr rfl
    · exact .inl (.inl (hdigit _ hhigh))
    · exact .inl (.inl (hdigit _ hlow))
    · exact ih hc

/-- A sign that is not written for itself does not stand in an encoded text. -/
theorem Encoded.not_mem {t : Text} (h : Encoded t) {c : Char} (hc : ¬ IsSingle c ∧ c ≠ '%') :
    c ∉ t := by
  intro hmem
  rcases h.of_mem hmem with hsingle | hpercent
  · exact hc.1 hsingle
  · exact hc.2 hpercent

/-- A query of one pair is read as this pair and no other. -/
theorem pairs_pair (name value : Text) : pairs (pair name value) = [(some name, some value)] := by
  have hamp : '&' ∉ pair name value := by
    unfold pair
    rw [List.mem_append, List.mem_cons]
    rintro (h | h | h)
    · exact (encoded_encode name).not_mem (by decide) h
    · exact absurd h (by decide)
    · exact (encoded_encode value).not_mem (by decide) h
  have hone : Text.splitOn '&' (pair name value) = [pair name value] := by
    rw [Text.splitOn_eq_splitOn]
    exact List.splitOn_eq_singleton hamp
  have hfilled : (pair name value).isEmpty = false := by simp [pair]
  have hsplit : Text.splitOnce '=' (pair name value) = some (encode name, encode value) :=
    Text.splitOnce_append ((encoded_encode name).not_mem (by decide)) _
  have hkeep : [pair name value].filter (fun piece => !piece.isEmpty) = [pair name value] := by
    simp [hfilled]
  rw [pairs, hone, hkeep, List.map_singleton, hsplit]
  simp only [Option.getD_some, decode?_encode]

end Form

end MangaPress.Web
