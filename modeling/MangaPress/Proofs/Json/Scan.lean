/-
# Cutting a source into tokens

`Token.scan` takes tokens from the front one after another: what a token leaves is shorter than the
source, so the fuel never runs out (`Token.scan_cons`). A written string is scanned as one token
whose content is the text that was written, and a written number as one token if what follows it
does not go on with the number (`Token.EndsNumber`).

Key theorems: `Token.scan_cons`, `Token.scan_quote_append`, `Token.scan_ofInt_append`.
-/
import MangaPress.Json.Token
import MangaPress.Json.Value
import MangaPress.Proofs.Text.Numeral

namespace MangaPress.Json

@[simp]
theorem Source.ofText_nil : Source.ofText [] = [] := rfl

@[simp]
theorem Source.ofText_cons (c : Char) (t : Text) :
    Source.ofText (c :: t) = some c :: Source.ofText t := rfl

@[simp]
theorem Source.ofText_append (t u : Text) :
    Source.ofText (t ++ u) = Source.ofText t ++ Source.ofText u :=
  List.map_append

namespace Token

/-! ### What a token leaves -/

theorem scanString_length (s : Source) : ∀ p ∈ scanString s, p.2.length < s.length := by
  fun_induction scanString s with
  | case1 | case3 | case4 | case10 | case12 | case13 =>
    intro p hp
    cases hp
  | case2 rest =>
    intro p hp
    cases hp
    exact Nat.lt_succ_self _
  | case5 | case6 | case7 | case8 | case9 | case11 | case14 | case15 =>
    rename_i ih
    intro p hp
    obtain ⟨q, hq, rfl⟩ := Option.map_eq_some_iff.mp hp
    have h := ih q hq
    simp only [List.length_cons]
    omega

theorem takeDigits_length : ∀ s : Source,
    (takeDigits s).1.length + (takeDigits s).2.length = s.length
  | [] => rfl
  | none :: _ => by simp [takeDigits]
  | some c :: rest => by
    have ih := takeDigits_length rest
    unfold takeDigits
    cases Text.isDigit c with
    | true => simp only [if_true, List.length_cons]; omega
    | false => simp

theorem digits?_length (s : Source) : ∀ p ∈ digits? s, p.2.length < s.length := by
  intro p hp
  have hl := takeDigits_length s
  unfold digits? at hp
  split at hp
  · cases hp
  · rename_i digits after hnil hd
    cases hp
    rw [hd] at hl
    have hpos := List.length_pos_iff.mpr hnil
    dsimp only at hl ⊢
    omega

theorem takeSign_length (s : Source) : (takeSign s).2.length ≤ s.length := by
  unfold takeSign
  split
  · exact Nat.le_succ _
  · exact Nat.le_succ _
  · exact Nat.le_refl _

theorem scanWhole_length (s : Source) : ∀ p ∈ scanWhole s, p.2.length < s.length := by
  intro p hp
  unfold scanWhole at hp
  split at hp
  · cases hp
  · cases hp
  · rename_i hd
    cases hp
    exact digits?_length s _ hd

theorem scanFraction_length (s : Source) : ∀ p ∈ scanFraction s, p.2.length ≤ s.length := by
  intro p hp
  unfold scanFraction at hp
  split at hp
  · rename_i rest
    obtain ⟨q, hq, rfl⟩ := Option.map_eq_some_iff.mp hp
    have hl := digits?_length rest q hq
    simp only [List.length_cons]
    omega
  · cases hp
    exact Nat.le_refl _

theorem scanExponent_length (s : Source) : ∀ p ∈ scanExponent s, p.2.length ≤ s.length := by
  intro p hp
  unfold scanExponent at hp
  split at hp
  · rename_i c rest
    split at hp
    · obtain ⟨q, hq, rfl⟩ := Option.map_eq_some_iff.mp hp
      have hsign := takeSign_length rest
      have hl := digits?_length (takeSign rest).2 q hq
      simp only [List.length_cons]
      omega
    · cases hp
      exact Nat.le_refl _
  · cases hp
    exact Nat.le_refl _

theorem scanUnsigned_length (s : Source) : ∀ p ∈ scanUnsigned s, p.2.length < s.length := by
  intro p hp
  unfold scanUnsigned at hp
  obtain ⟨⟨whole, s₁⟩, h₁, hp⟩ := Option.bind_eq_some_iff.mp hp
  obtain ⟨⟨fraction, s₂⟩, h₂, hp⟩ := Option.bind_eq_some_iff.mp hp
  obtain ⟨⟨exponent, s₃⟩, h₃, hp⟩ := Option.bind_eq_some_iff.mp hp
  cases hp
  have l₁ := scanWhole_length s _ h₁
  have l₂ := scanFraction_length s₁ _ h₂
  have l₃ := scanExponent_length s₂ _ h₃
  simp only at l₁ l₂ l₃ ⊢
  omega

theorem scanNumber_length (s : Source) : ∀ p ∈ scanNumber s, p.2.length < s.length := by
  intro p hp
  unfold scanNumber at hp
  split at hp
  · rename_i rest
    obtain ⟨q, hq, rfl⟩ := Option.map_eq_some_iff.mp hp
    exact Nat.lt_succ_of_lt (scanUnsigned_length rest q hq)
  · exact scanUnsigned_length s p hp

/-- A token takes the character it begins with. -/
theorem scanOne_length (c : Char) (rest : Source) : (scanOne c rest).2.length ≤ rest.length := by
  unfold scanOne
  split
  case h_1 | h_2 | h_3 | h_4 | h_5 | h_6 => exact Nat.le_refl _
  case h_7 | h_8 | h_9 =>
    split
    · simp only [List.length_cons]
      omega
    · exact Nat.zero_le _
  case h_10 =>
    split
    · rename_i h
      exact Nat.le_of_lt (scanString_length rest _ h)
    · exact Nat.zero_le _
  case h_11 =>
    split
    · rename_i h
      exact Nat.le_of_lt_succ (scanNumber_length _ _ h)
    · exact Nat.zero_le _

/-- More fuel than characters makes no difference. -/
theorem scanFrom_eq : ∀ (m n : Nat) (s : Source), s.length ≤ m → s.length ≤ n →
    scanFrom m s = scanFrom n s
  | 0, 0, _, _, _ => rfl
  | 0, _ + 1, [], _, _ => rfl
  | _ + 1, 0, [], _, _ => rfl
  | _ + 1, _ + 1, [], _, _ => rfl
  | _ + 1, _ + 1, none :: _, _, _ => rfl
  | m + 1, n + 1, some c :: rest, hm, hn => by
    have hm' := Nat.le_of_succ_le_succ hm
    have hn' := Nat.le_of_succ_le_succ hn
    have hl := scanOne_length c rest
    rw [scanFrom, scanFrom, scanFrom_eq m n rest hm' hn']
    dsimp only
    rw [scanFrom_eq m n (scanOne c rest).2 (Nat.le_trans hl hm') (Nat.le_trans hl hn')]

theorem scan_cons (c : Char) (rest : Source) : scan (some c :: rest) =
    if isSpace c then scan rest else (scanOne c rest).1 :: scan (scanOne c rest).2 := by
  have hl := scanOne_length c rest
  rw [scan, List.length_cons, scanFrom]
  dsimp only
  rw [scanFrom_eq rest.length (scanOne c rest).2.length _ hl (Nat.le_refl _)]
  rfl

theorem scan_space {c : Char} (h : isSpace c = true) (rest : Source) :
    scan (some c :: rest) = scan rest := by
  rw [scan_cons, if_pos h]

/-! ### Marks and words -/

theorem scan_mark {c : Char} {t : Token} (hc : isSpace c = false)
    (h : ∀ rest, scanOne c rest = (t, rest)) (rest : Source) :
    scan (some c :: rest) = t :: scan rest := by
  rw [scan_cons, hc, h]
  rfl

@[simp]
theorem scan_openArray (rest : Source) : scan (some '[' :: rest) = openArray :: scan rest :=
  scan_mark rfl (fun _ => rfl) rest

@[simp]
theorem scan_closeArray (rest : Source) : scan (some ']' :: rest) = closeArray :: scan rest :=
  scan_mark rfl (fun _ => rfl) rest

@[simp]
theorem scan_openObject (rest : Source) : scan (some '\x7b' :: rest) = openObject :: scan rest :=
  scan_mark rfl (fun _ => rfl) rest

@[simp]
theorem scan_closeObject (rest : Source) :
    scan (some '\x7d' :: rest) = closeObject :: scan rest :=
  scan_mark rfl (fun _ => rfl) rest

@[simp]
theorem scan_comma (rest : Source) : scan (some ',' :: rest) = comma :: scan rest :=
  scan_mark rfl (fun _ => rfl) rest

@[simp]
theorem scan_colon (rest : Source) : scan (some ':' :: rest) = colon :: scan rest :=
  scan_mark rfl (fun _ => rfl) rest

@[simp]
theorem scan_blank (rest : Source) : scan (some ' ' :: rest) = scan rest :=
  scan_space rfl rest

@[simp]
theorem scan_newLine_append (level : Nat) (r : Source) :
    scan (Source.ofText (newLine level) ++ r) = scan r := by
  have hspaces : ∀ n, scan (Source.ofText (List.replicate n ' ') ++ r) = scan r := by
    intro n
    induction n with
    | zero => rfl
    | succ n ih =>
      rw [List.replicate_succ, Source.ofText_cons, List.cons_append, scan_blank, ih]
  rw [newLine, Source.ofText_cons, List.cons_append, scan_space (by decide), hspaces]

/-! ### Strings -/

theorem hexQuad?_control {n : Nat} (h : n < 0x20) :
    hexQuad? '0' '0' (Text.digitChar (n / 16)) (Text.digitChar (n % 16)) = some n := by
  have key : ∀ m : Fin 0x20, hexQuad? '0' '0' (Text.digitChar (m / 16)) (Text.digitChar (m % 16)) =
      some m.val := by decide
  exact key ⟨n, h⟩

/-- A character that is written is read as itself. -/
theorem scanString_escapeChar_append (c : Char) (r : Source) :
    scanString (Source.ofText (escapeChar c) ++ r) =
      (scanString r).map fun (t, r) => (push c t, r) := by
  unfold escapeChar
  split
  case h_1 | h_2 | h_3 | h_4 | h_5 | h_6 | h_7 => rfl
  case h_8 c hquote hbackslash _ _ _ _ _ =>
    split
    · rename_i hcontrol
      simp only [Source.ofText_cons, Source.ofText_nil, List.cons_append, List.nil_append]
      rw [scanString, hexQuad?_control hcontrol]
      dsimp only
      rw [if_neg (by omega), if_neg (by omega), Char.ofNat_toNat]
    · rename_i hplain
      simp only [Source.ofText_cons, Source.ofText_nil, List.cons_append, List.nil_append]
      rw [scanString, if_neg hplain]
      · exact hquote
      · exact fun _ _ _ _ _ _ => hbackslash
      · exact fun _ _ _ => hbackslash
      · exact hbackslash

theorem scanString_escaped_append : ∀ (t : Text) (r : Source),
    scanString (Source.ofText (t.flatMap escapeChar) ++ some '"' :: r) = some (some t, r)
  | [], _ => rfl
  | c :: t, r => by
    rw [List.flatMap_cons, Source.ofText_append, List.append_assoc, scanString_escapeChar_append,
      scanString_escaped_append t r]
    rfl

theorem scan_quote_append (t : Text) (r : Source) :
    scan (Source.ofText (quote t) ++ r) = string (some t) :: scan r := by
  have h : scanOne '"' (Source.ofText (t.flatMap escapeChar) ++ some '"' :: r) =
      (string (some t), r) := by
    rw [scanOne, scanString_escaped_append]
  have hq : Source.ofText (quote t) ++ r =
      some '"' :: (Source.ofText (t.flatMap escapeChar) ++ some '"' :: r) := by
    simp [quote]
  rw [hq, scan_cons, if_neg (by decide), h]

/-! ### Numbers -/

/-- The source does not begin with what could go on with a number. -/
def EndsNumber (s : Source) : Prop :=
  ∀ c ∈ s.head?, ∀ d ∈ c, Text.isDigit d = false ∧ d ≠ '.' ∧ d ≠ 'e' ∧ d ≠ 'E'

theorem takeDigits_append {r : Source} (h : EndsNumber r) : ∀ {ds : Text},
    (∀ d ∈ ds, Text.isDigit d = true) → takeDigits (Source.ofText ds ++ r) = (ds, r)
  | [], _ => by
    match r with
    | [] => rfl
    | none :: _ => rfl
    | some c :: _ =>
      have hc := (h (some c) rfl c rfl).1
      rw [Source.ofText_nil, List.nil_append, takeDigits, hc]
      rfl
  | d :: ds, hd => by
    rw [Source.ofText_cons, List.cons_append, takeDigits, if_pos (hd d List.mem_cons_self),
      takeDigits_append h fun e he => hd e (List.mem_cons_of_mem _ he)]

theorem scanFraction_of_endsNumber {r : Source} (h : EndsNumber r) :
    scanFraction r = some ([], r) := by
  unfold scanFraction
  split
  · exact absurd rfl (h (some '.') rfl '.' rfl).2.1
  · rfl

theorem scanExponent_of_endsNumber {r : Source} (h : EndsNumber r) :
    scanExponent r = some ([], r) := by
  unfold scanExponent
  split
  · rename_i c _
    have hc := (h (some c) rfl c rfl).2.2
    rw [if_neg (by rintro (h | h) <;> simp_all)]
  · rfl

theorem digits?_append {r : Source} (h : EndsNumber r) {ds : Text} (hne : ds ≠ [])
    (hds : ∀ d ∈ ds, Text.isDigit d = true) : digits? (Source.ofText ds ++ r) = some (ds, r) := by
  unfold digits?
  rw [takeDigits_append h hds]
  split
  · rename_i he
    exact absurd (Prod.mk.inj he).1 hne
  · rename_i he
    cases he
    rfl

/-- A natural number is written without a zero in front. -/
theorem scanWhole_ofNat_append (n : Nat) {r : Source} (h : EndsNumber r) :
    scanWhole (Source.ofText (Text.ofNat n) ++ r) = some (Text.ofNat n, r) := by
  have hd := digits?_append h (Text.ofNat_ne_nil n) fun d hd => Text.isDigit_of_mem_ofNat hd
  unfold scanWhole
  rw [hd]
  split
  · rename_i he
    cases he
  · rename_i he
    have hp := Option.some.inj he
    exact absurd (Text.eq_nil_of_ofNat_eq_cons (Prod.mk.inj hp).1) (List.cons_ne_nil _ _)
  · rename_i he
    exact he.symm

theorem scanUnsigned_ofNat_append (n : Nat) {r : Source} (h : EndsNumber r) :
    scanUnsigned (Source.ofText (Text.ofNat n) ++ r) = some (Text.ofNat n, r) := by
  unfold scanUnsigned
  rw [scanWhole_ofNat_append n h, Option.bind_eq_bind, Option.bind_some]
  dsimp only
  rw [scanFraction_of_endsNumber h, Option.bind_some]
  dsimp only
  rw [scanExponent_of_endsNumber h, Option.bind_some, List.append_nil, List.append_nil]

theorem scanNumber_ofInt_append {r : Source} (h : EndsNumber r) : ∀ n : Int,
    scanNumber (Source.ofText (Text.ofInt n) ++ r) = some (Text.ofInt n, r)
  | .ofNat n => by
    have hu := scanUnsigned_ofNat_append n h
    obtain ⟨d, ds, hds, hd⟩ := Text.exists_ofNat_eq_cons n
    rw [Text.ofInt]
    rw [hds, Source.ofText_cons, List.cons_append] at hu ⊢
    rw [scanNumber, hu]
    rintro rest he
    cases he
    exact absurd hd (by decide)
  | .negSucc n => by
    rw [Text.ofInt, Source.ofText_cons, List.cons_append, scanNumber, scanUnsigned_ofNat_append _ h]
    rfl

theorem isSpace_of_isDigit {c : Char} (h : Text.isDigit c = true) : isSpace c = false := by
  cases hs : isSpace c with
  | false => rfl
  | true =>
    simp only [isSpace, Bool.or_eq_true, beq_iff_eq] at hs
    rcases hs with ((rfl | rfl) | rfl) | rfl <;> exact absurd h (by decide)

/-- A digit or a minus sign begins a number. -/
theorem scanOne_of_number {c : Char} (h : c = '-' ∨ Text.isDigit c = true) (rest : Source) :
    scanOne c rest =
      match scanNumber (some c :: rest) with
      | some (spelling, rest) => (number spelling, rest)
      | none => (junk, []) := by
  unfold scanOne
  split
  case h_11 => rfl
  all_goals exact absurd h (by decide)

theorem scan_ofInt_append (n : Int) {r : Source} (h : EndsNumber r) :
    scan (Source.ofText (Text.ofInt n) ++ r) = number (Text.ofInt n) :: scan r := by
  have hs := scanNumber_ofInt_append h n
  obtain ⟨c, cs, hcs⟩ := List.exists_cons_of_ne_nil (Text.ofInt_ne_nil n)
  have hc : c = '-' ∨ Text.isDigit c = true :=
    Text.mem_ofInt (n := n) (by rw [hcs]; exact List.mem_cons_self)
  have hspace : isSpace c = false := by
    rcases hc with rfl | hc
    · rfl
    · exact isSpace_of_isDigit hc
  rw [hcs, Source.ofText_cons, List.cons_append] at hs ⊢
  rw [scan_cons, hspace, if_neg (by decide), scanOne_of_number hc, hs]

end Token

end MangaPress.Json
