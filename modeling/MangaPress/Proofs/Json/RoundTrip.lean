/-
# Reading what was written

A value that is written can be read: its text is cut into the tokens of the value
(`Value.tokens`), whatever the layout, and the tokens are put together to the value's reading
(`Value.reading`), with nothing left over.

Key definitions: `Value.tokens`, `Value.reading`.
Key theorems: `Token.scan_pretty`, `Token.scan_compact`, `Reading.readTokens_tokens_append`,
`Document.ofSource_pretty`, `Document.ofSource_compact`.
-/
import MangaPress.Json.Reading
import MangaPress.Proofs.Json.Scan
import MangaPress.Proofs.Text.Utf8

namespace MangaPress.Json

namespace Value

mutual

/-- The tokens of a value. -/
def tokens : Value → List Token
  | null => [.null]
  | bool b => [.bool b]
  | int n => [.number (Text.ofInt n)]
  | string t => [.string (some t)]
  | array items => .openArray :: (tokensOfItems items ++ [.closeArray])
  | object members => .openObject :: (tokensOfMembers members ++ [.closeObject])

/-- The tokens of items with commas between them. -/
def tokensOfItems : List Value → List Token
  | [] => []
  | [v] => tokens v
  | v :: w :: rest => tokens v ++ .comma :: tokensOfItems (w :: rest)

/-- The tokens of members with commas between them. -/
def tokensOfMembers : List (Text × Value) → List Token
  | [] => []
  | [(k, v)] => .string (some k) :: .colon :: tokens v
  | (k, v) :: m :: rest =>
    .string (some k) :: .colon :: (tokens v ++ .comma :: tokensOfMembers (m :: rest))

end

mutual

/-- The value as it is read. -/
def reading : Value → Reading
  | null => .null
  | bool b => .bool b
  | int n => .number (Text.ofInt n)
  | string t => .string (some t)
  | array items => .array (readingsOfItems items) true
  | object members => .object (readingsOfMembers members) true

/-- Items as they are read. -/
def readingsOfItems : List Value → List Reading
  | [] => []
  | v :: rest => reading v :: readingsOfItems rest

/-- Members as they are read. -/
def readingsOfMembers : List (Text × Value) → List (Option Text × Reading)
  | [] => []
  | (k, v) :: rest => (some k, reading v) :: readingsOfMembers rest

end

end Value

/-! ### Tokens from a text -/

namespace Token

theorem endsNumber_nil : EndsNumber [] := by
  intro o ho
  cases ho

theorem endsNumber_cons {c : Char} (h : Text.isDigit c = false ∧ c ≠ '.' ∧ c ≠ 'e' ∧ c ≠ 'E')
    (r : Source) : EndsNumber (some c :: r) := by
  intro o ho d hd
  cases ho
  cases hd
  exact h

theorem endsNumber_comma (r : Source) : EndsNumber (some ',' :: r) :=
  endsNumber_cons (by decide) r

theorem endsNumber_newLine_append (level : Nat) (r : Source) :
    EndsNumber (Source.ofText (newLine level) ++ r) :=
  endsNumber_cons (by decide) _

open Value

mutual

theorem scan_prettyAt_append : ∀ (v : Value) (level : Nat) {r : Source}, EndsNumber r →
    scan (Source.ofText (prettyAt level v) ++ r) = v.tokens ++ scan r
  | .null, _, r, _ => scan_cons 'n' _
  | .bool true, _, r, _ => scan_cons 't' _
  | .bool false, _, r, _ => scan_cons 'f' _
  | .int n, _, r, hr => scan_ofInt_append n hr
  | .string t, _, r, _ => scan_quote_append t r
  | .array [], _, r, _ => (scan_openArray _).trans (congrArg _ (scan_closeArray r))
  | .array (v :: rest), level, r, _ => by
    have hi := scan_prettyItems_append (v :: rest) level
      (endsNumber_newLine_append level (some ']' :: r))
    rw [prettyAt, tokens]
    simp [hi]
  | .object [], _, r, _ => (scan_openObject _).trans (congrArg _ (scan_closeObject r))
  | .object (m :: rest), level, r, _ => by
    have hi := scan_prettyMembers_append (m :: rest) level
      (endsNumber_newLine_append level (some '\x7d' :: r))
    rw [prettyAt, tokens]
    simp [hi]

theorem scan_prettyItems_append : ∀ (items : List Value) (level : Nat) {r : Source},
    EndsNumber r →
    scan (Source.ofText (prettyItems level items) ++ r) = tokensOfItems items ++ scan r
  | [], _, _, _ => rfl
  | [v], level, r, hr => by
    have hv := scan_prettyAt_append v (level + 1) hr
    rw [prettyItems, tokensOfItems]
    simp [hv]
  | v :: w :: rest, level, r, hr => by
    have hw := scan_prettyItems_append (w :: rest) level hr
    have hv := scan_prettyAt_append v (level + 1)
      (endsNumber_comma (Source.ofText (prettyItems level (w :: rest)) ++ r))
    rw [prettyItems, tokensOfItems]
    simp [hv, hw]

theorem scan_prettyMembers_append : ∀ (members : List (Text × Value)) (level : Nat) {r : Source},
    EndsNumber r →
    scan (Source.ofText (prettyMembers level members) ++ r) = tokensOfMembers members ++ scan r
  | [], _, _, _ => rfl
  | [(k, v)], level, r, hr => by
    have hv := scan_prettyAt_append v (level + 1) hr
    rw [prettyMembers, tokensOfMembers]
    simp [scan_quote_append, hv]
  | (k, v) :: m :: rest, level, r, hr => by
    have hm := scan_prettyMembers_append (m :: rest) level hr
    have hv := scan_prettyAt_append v (level + 1)
      (endsNumber_comma (Source.ofText (prettyMembers level (m :: rest)) ++ r))
    rw [prettyMembers, tokensOfMembers]
    simp [scan_quote_append, hv, hm]

end

/-- A value on lines of its own is cut into the tokens of the value. -/
theorem scan_pretty (v : Value) : scan (Source.ofText v.pretty) = v.tokens := by
  have h := scan_prettyAt_append v 0 endsNumber_nil
  rw [List.append_nil] at h
  exact h.trans (List.append_nil _)

mutual

theorem scan_compact_append : ∀ (v : Value) {r : Source}, EndsNumber r →
    scan (Source.ofText (compact v) ++ r) = v.tokens ++ scan r
  | .null, r, _ => scan_cons 'n' _
  | .bool true, r, _ => scan_cons 't' _
  | .bool false, r, _ => scan_cons 'f' _
  | .int n, r, hr => scan_ofInt_append n hr
  | .string t, r, _ => scan_quote_append t r
  | .array items, r, _ => by
    have hi := scan_compactItems_append items (endsNumber_cons (c := ']') (by decide) r)
    rw [compact, tokens]
    simp [hi]
  | .object members, r, _ => by
    have hm := scan_compactMembers_append members (endsNumber_cons (c := '\x7d') (by decide) r)
    rw [compact, tokens]
    simp [hm]

theorem scan_compactItems_append : ∀ (items : List Value) {r : Source}, EndsNumber r →
    scan (Source.ofText (compactItems items) ++ r) = tokensOfItems items ++ scan r
  | [], _, _ => rfl
  | [v], _, hr => scan_compact_append v hr
  | v :: w :: rest, r, hr => by
    have hw := scan_compactItems_append (w :: rest) hr
    have hv := scan_compact_append v
      (endsNumber_comma (Source.ofText (compactItems (w :: rest)) ++ r))
    rw [compactItems, tokensOfItems]
    simp [hv, hw]

theorem scan_compactMembers_append : ∀ (members : List (Text × Value)) {r : Source},
    EndsNumber r →
    scan (Source.ofText (compactMembers members) ++ r) = tokensOfMembers members ++ scan r
  | [], _, _ => rfl
  | [(k, v)], r, hr => by
    have hv := scan_compact_append v hr
    rw [compactMembers, tokensOfMembers]
    simp [scan_quote_append, hv]
  | (k, v) :: m :: rest, r, hr => by
    have hm := scan_compactMembers_append (m :: rest) hr
    have hv := scan_compact_append v
      (endsNumber_comma (Source.ofText (compactMembers (m :: rest)) ++ r))
    rw [compactMembers, tokensOfMembers]
    simp [scan_quote_append, hv, hm]

end

/-- A value without white space is cut into the tokens of the value. -/
theorem scan_compact (v : Value) : scan (Source.ofText v.compact) = v.tokens := by
  have h := scan_compact_append v endsNumber_nil
  rw [List.append_nil] at h
  exact h.trans (List.append_nil _)

end Token

/-! ### Values from tokens -/

namespace Reading

/-- What follows once a value is complete inside the frames. -/
def proceed (r : Reading) (frames : List Frame) (ts : List Token) : Reading × List Token :=
  match frames with
  | [] => (r, ts)
  | frame :: rest => readTokens ts .after (frame.add r :: rest)

/-- A token that completes a value. -/
theorem readTokens_cons_of_value {t : Token} {place : Place} {frames outer : List Frame}
    {r : Reading} (h : Step.of place t frames = Step.value r outer) (ts : List Token) :
    readTokens (t :: ts) place frames = proceed r outer ts := by
  rw [readTokens, h]
  cases outer <;> rfl

theorem readTokens_cons_of_goOn {t : Token} {place place' : Place} {frames frames' : List Frame}
    (h : Step.of place t frames = .goOn place' frames') (ts : List Token) :
    readTokens (t :: ts) place frames = readTokens ts place' frames' := by
  rw [readTokens, h]

open Value

mutual

theorem readTokens_tokens_append : ∀ (v : Value) {place : Place},
    place = .value ∨ place = .firstItem → ∀ (frames : List Frame) (ts : List Token),
    readTokens (v.tokens ++ ts) place frames = proceed v.reading frames ts
  | .null, _, hp, frames, ts => by
    refine readTokens_cons_of_value ?_ ts
    rcases hp with rfl | rfl <;> rfl
  | .bool b, _, hp, frames, ts => by
    refine readTokens_cons_of_value ?_ ts
    rcases hp with rfl | rfl <;> rfl
  | .int n, _, hp, frames, ts => by
    refine readTokens_cons_of_value ?_ ts
    rcases hp with rfl | rfl <;> rfl
  | .string t, _, hp, frames, ts => by
    refine readTokens_cons_of_value ?_ ts
    rcases hp with rfl | rfl <;> rfl
  | .array items, place, hp, frames, ts => by
    have hopen : Step.of place .openArray frames = .goOn .firstItem (.array [] :: frames) := by
      rcases hp with rfl | rfl <;> rfl
    rw [tokens, List.cons_append, List.append_assoc, readTokens_cons_of_goOn hopen]
    cases items with
    | nil => exact readTokens_cons_of_value rfl ts
    | cons v rest =>
      exact readTokens_items_append (v :: rest) (List.cons_ne_nil _ _) (.inr rfl) [] frames ts
  | .object members, place, hp, frames, ts => by
    have hopen : Step.of place .openObject frames = .goOn .firstKey (.object [] :: frames) := by
      rcases hp with rfl | rfl <;> rfl
    rw [tokens, List.cons_append, List.append_assoc, readTokens_cons_of_goOn hopen]
    cases members with
    | nil => exact readTokens_cons_of_value rfl ts
    | cons m rest =>
      exact readTokens_members_append (m :: rest) (List.cons_ne_nil _ _) (.inr rfl) [] frames ts

/-- The items of an array and its end, after the items read so far, which are in reverse order. -/
theorem readTokens_items_append : ∀ (items : List Value), items ≠ [] → ∀ {place : Place},
    place = .value ∨ place = .firstItem →
    ∀ (read : List Reading) (frames : List Frame) (ts : List Token),
    readTokens (tokensOfItems items ++ ([.closeArray] ++ ts)) place (.array read :: frames) =
      proceed (.array (read.reverse ++ readingsOfItems items) true) frames ts
  | [], h, _, _, _, _, _ => absurd rfl h
  | [v], _, place, hp, read, frames, ts => by
    calc readTokens (tokens v ++ ([.closeArray] ++ ts)) place (.array read :: frames)
        = readTokens (.closeArray :: ts) .after (.array (v.reading :: read) :: frames) :=
          readTokens_tokens_append v hp _ _
      _ = proceed (.array (v.reading :: read).reverse true) frames ts :=
          readTokens_cons_of_value rfl ts
      _ = proceed (.array (read.reverse ++ readingsOfItems [v]) true) frames ts := by
          rw [List.reverse_cons]
          rfl
  | v :: w :: rest, _, place, hp, read, frames, ts => by
    have hnext := readTokens_items_append (w :: rest) (List.cons_ne_nil _ _) (.inl rfl)
      (v.reading :: read) frames ts
    calc readTokens (tokensOfItems (v :: w :: rest) ++ ([.closeArray] ++ ts)) place
          (.array read :: frames)
        = readTokens (.comma :: (tokensOfItems (w :: rest) ++ ([.closeArray] ++ ts))) .after
            (.array (v.reading :: read) :: frames) := by
          rw [tokensOfItems, List.append_assoc, readTokens_tokens_append v hp]
          rfl
      _ = readTokens (tokensOfItems (w :: rest) ++ ([.closeArray] ++ ts)) .value
            (.array (v.reading :: read) :: frames) := readTokens_cons_of_goOn rfl _
      _ = proceed (.array ((v.reading :: read).reverse ++ readingsOfItems (w :: rest)) true)
            frames ts := hnext
      _ = proceed (.array (read.reverse ++ readingsOfItems (v :: w :: rest)) true) frames ts := by
          rw [List.reverse_cons, List.append_assoc]
          rfl

/-- The members of an object and its end, after the members read so far. -/
theorem readTokens_members_append : ∀ (members : List (Text × Value)), members ≠ [] →
    ∀ {place : Place}, place = .key ∨ place = .firstKey →
    ∀ (read : List (Option Text × Reading)) (frames : List Frame) (ts : List Token),
    readTokens (tokensOfMembers members ++ ([.closeObject] ++ ts)) place (.object read :: frames) =
      proceed (.object (read.reverse ++ readingsOfMembers members) true) frames ts
  | [], h, _, _, _, _, _ => absurd rfl h
  | [(k, v)], _, place, hp, read, frames, ts => by
    have hfirst := readTokens_member hp k v read frames ([.closeObject] ++ ts)
    calc readTokens (tokensOfMembers [(k, v)] ++ ([.closeObject] ++ ts)) place
          (.object read :: frames)
        = readTokens (.closeObject :: ts) .after (.object ((some k, v.reading) :: read) :: frames) :=
          hfirst
      _ = proceed (.object ((some k, v.reading) :: read).reverse true) frames ts :=
          readTokens_cons_of_value rfl ts
      _ = proceed (.object (read.reverse ++ readingsOfMembers [(k, v)]) true) frames ts := by
          rw [List.reverse_cons]
          rfl
  | (k, v) :: m :: rest, _, place, hp, read, frames, ts => by
    have hfirst := readTokens_member hp k v read frames
      (.comma :: (tokensOfMembers (m :: rest) ++ ([.closeObject] ++ ts)))
    have hnext := readTokens_members_append (m :: rest) (List.cons_ne_nil _ _) (.inl rfl)
      ((some k, v.reading) :: read) frames ts
    calc readTokens (tokensOfMembers ((k, v) :: m :: rest) ++ ([.closeObject] ++ ts)) place
          (.object read :: frames)
        = readTokens (.comma :: (tokensOfMembers (m :: rest) ++ ([.closeObject] ++ ts))) .after
            (.object ((some k, v.reading) :: read) :: frames) := by
          rw [tokensOfMembers, List.cons_append, List.cons_append, List.append_assoc]
          exact hfirst
      _ = readTokens (tokensOfMembers (m :: rest) ++ ([.closeObject] ++ ts)) .key
            (.object ((some k, v.reading) :: read) :: frames) := readTokens_cons_of_goOn rfl _
      _ = proceed (.object (((some k, v.reading) :: read).reverse ++ readingsOfMembers (m :: rest))
            true) frames ts := hnext
      _ = proceed (.object (read.reverse ++ readingsOfMembers ((k, v) :: m :: rest)) true)
            frames ts := by
          rw [List.reverse_cons, List.append_assoc]
          rfl

/-- One member of an object, its key first. -/
theorem readTokens_member {place : Place} (hp : place = .key ∨ place = .firstKey) (k : Text)
    (v : Value) (read : List (Option Text × Reading)) (frames : List Frame) (ts : List Token) :
    readTokens (.string (some k) :: .colon :: (v.tokens ++ ts)) place (.object read :: frames) =
      readTokens ts .after (.object ((some k, v.reading) :: read) :: frames) := by
  have hkey : Step.of place (.string (some k)) (.object read :: frames) =
      .goOn .colon (.member read (some k) :: frames) := by
    rcases hp with rfl | rfl <;> rfl
  rw [readTokens_cons_of_goOn hkey, readTokens_cons_of_goOn rfl,
    readTokens_tokens_append v (.inl rfl)]
  rfl

end

mutual

/-- Nothing in a written value breaks off. -/
theorem wellFormed_reading : ∀ v : Value, v.reading.wellFormed = true
  | .null | .bool _ | .int _ | .string _ => rfl
  | .array items => by
    rw [reading, wellFormed, allWellFormed_readingsOfItems items]
    rfl
  | .object members => by
    rw [reading, wellFormed, allMembersWellFormed_readingsOfMembers members]
    rfl

theorem allWellFormed_readingsOfItems : ∀ items : List Value,
    allWellFormed (readingsOfItems items) = true
  | [] => rfl
  | v :: rest => by
    rw [readingsOfItems, allWellFormed, wellFormed_reading v, allWellFormed_readingsOfItems rest]
    rfl

theorem allMembersWellFormed_readingsOfMembers : ∀ members : List (Text × Value),
    allMembersWellFormed (readingsOfMembers members) = true
  | [] => rfl
  | (_, v) :: rest => by
    rw [readingsOfMembers, allMembersWellFormed, wellFormed_reading v,
      allMembersWellFormed_readingsOfMembers rest]
    rfl

end

end Reading

/-- Whatever the layout, a text with the tokens of a value is read back as this value and nothing
else. -/
theorem Document.ofSource_of_scan {s : Source} {v : Value} (h : Token.scan s = v.tokens) :
    Document.ofSource s = { value := v.reading, complete := true } := by
  have hr := Reading.readTokens_tokens_append v (.inl rfl) [] []
  rw [List.append_nil] at hr
  rw [Document.ofSource, h, hr]
  rfl

/-- A text is read from its bytes in UTF-8. -/
theorem Source.ofBytes_encode (t : Text) : Source.ofBytes (Text.encode t) = Source.ofText t :=
  Text.decodeMarked_encode t

/-- **A value on lines of its own is read back whole.** -/
theorem Document.ofSource_pretty (v : Value) :
    Document.ofSource (Source.ofText v.pretty) = { value := v.reading, complete := true } :=
  ofSource_of_scan (Token.scan_pretty v)

/-- **A value without white space is read back whole.** -/
theorem Document.ofSource_compact (v : Value) :
    Document.ofSource (Source.ofText v.compact) = { value := v.reading, complete := true } :=
  ofSource_of_scan (Token.scan_compact v)

end MangaPress.Json
