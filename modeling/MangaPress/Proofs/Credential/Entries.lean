/-
# The entries of a credential file

Entries are looked up like a map: setting and removing change what is found under one name
(`Entries.lookup_set`, `Entries.lookup_remove`). An object of texts is read as the entries that its
members make up, and any other object is not read at all. In the order of their names entries are
what their own file reads as, for every name and every value (`Credential.parseEntries_encode_write`).

Key definitions: `Entries.Sorted`, `Credential.IsObject`, `Credential.IsEntry`, `Credential.ofTexts`.
Key theorems: `Entries.sorted_ofMembers`, `Entries.ofMembers_of_sorted`,
`Credential.parseEntries_of_object`, `Credential.parseEntries_of_mixed`,
`Credential.parseEntries_encode_write`.
-/
import MangaPress.Credential
import MangaPress.Proofs.Json.RoundTrip
import MangaPress.Proofs.Json.Schema
import MangaPress.Proofs.Lookup
import Mathlib.Data.Char
import Mathlib.Data.List.Lex

namespace MangaPress

open Json (Decoder Document Reading Source Token)

namespace Entries

/-! ### The order of names -/

theorem precedes_iff_lt : ∀ s t : Text, precedes s t = true ↔ s < t
  | [], [] => by simp [precedes]
  | [], b :: t => by simp [precedes]
  | a :: s, [] => by simp [precedes]
  | a :: s, b :: t => by
    have ih := precedes_iff_lt s t
    have hlt : ∀ c d : Char, c < d ↔ c.toNat < d.toNat := fun c d => Iff.rfl
    rw [List.cons_lt_cons_iff, precedes, ← ih, hlt]
    by_cases hab : a.toNat < b.toNat
    · simp [hab]
    · by_cases hba : b.toNat < a.toNat
      · have hne : a ≠ b := by
          rintro rfl
          exact hab hba
        simp [hab, hba, hne]
      · have he : a = b := Char.toNat_inj.mp (by omega)
        simp [he]

/-- The names are in order, and each stands once. -/
def Sorted (entries : Entries) : Prop :=
  entries.Pairwise fun a b => a.1 < b.1

/-! ### Setting and removing -/

theorem lookup_set (name value k : Text) : ∀ entries : Entries,
    (entries.set name value).lookup k = if k = name then some value else entries.lookup k
  | [] => lookup_cons_eq_ite k (name, value) []
  | (k', v) :: rest => by
    have ih := lookup_set name value k rest
    unfold set
    by_cases hname : k' = name
    · rw [if_pos hname, lookup_cons_eq_ite, lookup_cons_eq_ite, hname]
      by_cases hk : k = name
      · rw [if_pos hk, if_pos hk]
      · rw [if_neg hk, if_neg hk, if_neg hk]
    · rw [if_neg hname]
      by_cases hp : precedes name k' = true
      · rw [if_pos hp, lookup_cons_eq_ite]
      · rw [if_neg hp, lookup_cons_eq_ite, ih, lookup_cons_eq_ite]
        by_cases hk : k = k'
        · rw [if_pos hk, if_neg (fun h => hname (hk.symm.trans h)), if_pos hk]
        · rw [if_neg hk, if_neg hk]

theorem lookup_remove (name k : Text) (entries : Entries) :
    (entries.remove name).lookup k = if k = name then none else entries.lookup k :=
  lookup_filter_ne k name entries

theorem mem_set {name value : Text} {entry : Text × Text} : ∀ {entries : Entries},
    entry ∈ entries.set name value → entry = (name, value) ∨ entry ∈ entries
  | [], h => .inl (List.mem_singleton.mp h)
  | (k, v) :: rest, h => by
    unfold set at h
    split at h
    · exact (List.mem_cons.mp h).imp_right (List.mem_cons_of_mem _)
    · split at h
      · exact List.mem_cons.mp h
      · rcases List.mem_cons.mp h with rfl | h
        · exact .inr List.mem_cons_self
        · exact (mem_set h).imp_right (List.mem_cons_of_mem _)

theorem Sorted.set (name value : Text) : ∀ {entries : Entries}, entries.Sorted →
    (entries.set name value).Sorted
  | [], _ => List.pairwise_singleton _ _
  | (k, v) :: rest, h => by
    obtain ⟨hhead, hrest⟩ := List.pairwise_cons.mp h
    unfold Entries.set
    by_cases hk : k = name
    · rw [if_pos hk]
      subst hk
      exact List.pairwise_cons.mpr ⟨hhead, hrest⟩
    · rw [if_neg hk]
      by_cases hp : precedes name k = true
      · rw [if_pos hp]
        have hlt := (precedes_iff_lt name k).mp hp
        refine List.pairwise_cons.mpr ⟨fun entry he => ?_, h⟩
        rcases List.mem_cons.mp he with rfl | he
        · exact hlt
        · exact lt_trans hlt (hhead entry he)
      · rw [if_neg hp]
        have hnot := mt (precedes_iff_lt name k).mpr hp
        have hlt : k < name := lt_of_le_of_ne (not_lt.mp hnot) hk
        refine List.pairwise_cons.mpr ⟨fun entry he => ?_, Sorted.set name value hrest⟩
        rcases mem_set he with rfl | he
        · exact hlt
        · exact hhead entry he

theorem Sorted.remove {entries : Entries} (h : entries.Sorted) (name : Text) :
    (entries.remove name).Sorted :=
  List.Pairwise.filter _ h

/-! ### From members -/

theorem sorted_ofMembers (members : List (Text × Text)) : (ofMembers members).Sorted := by
  have hfold : ∀ (ms : List (Text × Text)) (entries : Entries), entries.Sorted →
      Sorted (ms.foldl (fun entries m => entries.set m.1 m.2) entries) := by
    intro ms
    induction ms with
    | nil => exact fun entries h => h
    | cons m ms ih => exact fun entries h => ih _ (h.set m.1 m.2)
  exact hfold members [] List.Pairwise.nil

/-- An entry that belongs behind the others is put there. -/
theorem set_of_last {name value : Text} : ∀ {entries : Entries},
    Sorted (entries ++ [(name, value)]) → entries.set name value = entries ++ [(name, value)]
  | [], _ => rfl
  | (k, v) :: rest, h => by
    obtain ⟨hhead, hrest⟩ := List.pairwise_cons.mp h
    have hlt : k < name := hhead (name, value) (List.mem_append_right _ (List.mem_singleton_self _))
    have hp : precedes name k ≠ true := by
      rw [Ne, precedes_iff_lt]
      exact lt_asymm hlt
    rw [Entries.set, if_neg (ne_of_lt hlt), if_neg hp, set_of_last hrest]
    rfl

theorem ofMembers_of_sorted {entries : Entries} (h : entries.Sorted) :
    ofMembers entries = entries := by
  have hfold : ∀ (ms acc : Entries), Sorted (acc ++ ms) →
      ms.foldl (fun entries m => entries.set m.1 m.2) acc = acc ++ ms := by
    intro ms
    induction ms with
    | nil => exact fun acc _ => (List.append_nil acc).symm
    | cons m ms ih =>
      intro acc hs
      have hsplit : acc ++ m :: ms = (acc ++ [m]) ++ ms := by simp
      rw [hsplit] at hs
      have hset : acc.set m.1 m.2 = acc ++ [m] := set_of_last (List.pairwise_append.mp hs).1
      rw [List.foldl_cons]
      show ms.foldl _ (acc.set m.1 m.2) = _
      rw [hset, ih _ hs, hsplit]
  exact hfold entries [] h

end Entries

/-! ### Blank files -/

namespace Json

/-- In a blank file no value begins. -/
theorem scan_of_blank : ∀ {content : Bytes}, content.all Credential.isBlankByte = true →
    Token.scan (Source.ofBytes content) = [] ∨
      ∃ ts, Token.scan (Source.ofBytes content) = .junk :: ts
  | [], _ => by
    rw [Source.ofBytes, Text.decodeMarked]
    exact .inl rfl
  | b :: rest, h => by
    rw [List.all_cons, Bool.and_eq_true] at h
    obtain ⟨hb, hrest⟩ := h
    have hspace : ∀ c, Text.encodeChar c = [b] → Token.isSpace c = true →
        Token.scan (Source.ofBytes (b :: rest)) = Token.scan (Source.ofBytes rest) := by
      intro c hc hs
      rw [← List.singleton_append, ← hc, Source.ofBytes, Text.decodeMarked_encodeChar_append,
        Token.scan_space hs, Source.ofBytes]
    simp only [Credential.isBlankByte, Bool.or_eq_true, beq_iff_eq] at hb
    rcases hb with (((rfl | rfl) | rfl) | rfl) | rfl
    · rw [hspace ' ' rfl rfl]
      exact scan_of_blank hrest
    · rw [hspace '\t' rfl rfl]
      exact scan_of_blank hrest
    · rw [hspace '\n' rfl rfl]
      exact scan_of_blank hrest
    · -- A form feed is blank, but no white space of JSON.
      have hfeed : Source.ofBytes (0x0C :: rest) = some '\x0c' :: Source.ofBytes rest :=
        Text.decodeMarked_encodeChar_append '\x0c' rest
      rw [hfeed, Token.scan_cons]
      exact .inr ⟨_, rfl⟩
    · rw [hspace '\r' rfl rfl]
      exact scan_of_blank hrest

theorem value_of_blank {content : Bytes} (h : content.all Credential.isBlankByte = true) :
    (Document.ofSource (Source.ofBytes content)).value = .broken := by
  unfold Document.ofSource
  rcases scan_of_blank h with hscan | ⟨ts, hscan⟩
  · rw [hscan, Reading.readTokens, Frame.abandon]
  · rw [hscan, Reading.readTokens, Frame.abandon]
    rfl

end Json

namespace Credential

/-! ### Objects -/

/-- The content is a JSON object with these members. -/
def IsObject (content : Bytes) (members : List (Option Text × Reading)) : Prop :=
  Document.ofSource (Source.ofBytes content) = { value := .object members true, complete := true }

/-- The member is a text under a name. -/
def IsEntry (m : Option Text × Reading) : Prop :=
  ∃ name text, m = (some name, .string (some text))

/-- The members that texts under names are. -/
def ofTexts (entries : List (Text × Text)) : List (Option Text × Reading) :=
  entries.map fun e => (some e.1, .string (some e.2))

theorem isEntry_of_mem_ofTexts (entries : List (Text × Text)) : ∀ e ∈ ofTexts entries, IsEntry e := by
  intro m hm
  obtain ⟨e, -, rfl⟩ := List.mem_map.mp hm
  exact ⟨e.1, e.2, rfl⟩

/-- Members are read as texts iff each of them is one. -/
theorem members_text_eq_ok_iff {members : List (Option Text × Reading)}
    {entries : List (Text × Text)} :
    Decoder.members Decoder.text (.object members true) = .ok entries ↔
      members = ofTexts entries := by
  have hmember : (fun (m : Option Text × Reading) (e : Text × Text) =>
      Decoder.member Decoder.text m = .ok e) = fun m e => m = (some e.1, .string (some e.2)) := by
    funext m e
    obtain ⟨k, x⟩ := m
    obtain ⟨name, text⟩ := e
    have htext := Json.text_eq_ok_iff x text
    rw [Json.IsText] at htext
    rw [Prod.mk.injEq, ← htext, ← Json.key_eq_ok_iff, Decoder.member]
    cases Decoder.key k with
    | error e => simp [bind, Except.bind]
    | ok k =>
      cases Decoder.text x with
      | error e => simp [bind, Except.bind]
      | ok t => simp [bind, Except.bind]
  have hread : Decoder.members Decoder.text (.object members true) =
      members.mapM (Decoder.member Decoder.text) := by
    rw [Decoder.members]
    cases members.mapM (Decoder.member Decoder.text) <;> rfl
  rw [hread, mapM_eq_ok_iff, hmember, ofTexts, ← List.forall₂_eq_eq_eq, List.forall₂_map_right_iff]

theorem parseEntries_eq {content : Bytes} {members : List (Option Text × Reading)}
    (h : IsObject content members) :
    parseEntries content =
      match Decoder.members Decoder.text (.object members true) with
      | .ok members => .ok (Entries.ofMembers members)
      | .error _ => .error .malformed := by
  have hfilled : ¬ content.all isBlankByte = true := by
    intro hblank
    have hbroken := Json.value_of_blank hblank
    rw [h] at hbroken
    cases hbroken
  unfold parseEntries
  rw [if_neg hfilled]
  dsimp only
  rw [h, Document.decode]
  cases Decoder.members Decoder.text (.object members true) <;> rfl

/-- An object of texts is read as the entries that it makes up. -/
theorem parseEntries_of_object {content : Bytes} {entries : List (Text × Text)}
    (h : IsObject content (ofTexts entries)) :
    parseEntries content = .ok (Entries.ofMembers entries) := by
  rw [parseEntries_eq h, members_text_eq_ok_iff.mpr rfl]

/-- An object in which something is not a text is not read at all. -/
theorem parseEntries_of_mixed {content : Bytes} {members : List (Option Text × Reading)}
    (h : IsObject content members) (hmixed : ¬ ∀ m ∈ members, IsEntry m) :
    parseEntries content = .error .malformed := by
  rw [parseEntries_eq h]
  cases hread : Decoder.members Decoder.text (.object members true) with
  | error e => rfl
  | ok entries =>
    rw [members_text_eq_ok_iff.mp hread] at hmixed
    exact absurd (isEntry_of_mem_ofTexts entries) hmixed

/-! ### Reading what was written -/

theorem isObject_encode_write (entries : Entries) :
    IsObject (Text.encode entries.write) (ofTexts entries) := by
  have hreading : ∀ es : List (Text × Text),
      Json.Value.readingsOfMembers (es.map fun e => (e.1, .string e.2)) = ofTexts es := by
    intro es
    induction es with
    | nil => rfl
    | cons e es ih =>
      rw [List.map_cons, Json.Value.readingsOfMembers, ih]
      rfl
  rw [IsObject, Source.ofBytes_encode, Entries.write, Document.ofSource_pretty, Json.Value.reading,
    hreading]

/-- **A file of entries reads as these entries**, whatever characters are in them. -/
theorem parseEntries_encode_write {entries : Entries} (h : entries.Sorted) :
    parseEntries (Text.encode entries.write) = .ok entries := by
  rw [parseEntries_of_object (isObject_encode_write entries), Entries.ofMembers_of_sorted h]

end Credential

end MangaPress
