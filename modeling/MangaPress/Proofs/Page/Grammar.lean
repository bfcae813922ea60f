/-
# What each text is as a page document

Which of its six outcomes `Page.parse` has is settled by the text alone, in four steps: whether there
is anything to read, whether it is a YAML document, whether that holds a `comic_page` with panels,
and whether what stands there describes a page in the sense of the schema. `Page.parse_grammar`
characterises each outcome, so that they exclude each other and leave nothing out.

Nothing is asked of the document; local tags are looked through at its top, at `comic_page` and at
`panels`, but never at these keys.

Key definitions: `Schema.Stands`, `Page.IsDocument`, `Page.HoldsPage`, `Page.HoldsPanels`.
Key theorems: `Page.panels_ne_nil_of_parse`, `Page.parse_grammar`.
-/
import MangaPress.Page.Markup
import MangaPress.Proofs.Page.Schema

namespace MangaPress

open Yaml (Value)

namespace Schema

/-! ### Entries by their keys -/

/-- The value is a mapping, and the first of its entries with the key holds the content. -/
def Stands (v : Value) (key : Text) (content : Value) : Prop :=
  ∃ before after, v.untag = .mapping (before ++ (.string key, content) :: after) ∧
    ∀ e ∈ before, e.1 ≠ .string key

theorem lookup?_eq_some_iff {key : Text} {content : Value} : ∀ {entries : List (Value × Value)},
    Value.lookup? key entries = some content ↔
      ∃ before after, entries = before ++ (.string key, content) :: after ∧
        ∀ e ∈ before, e.1 ≠ .string key
  | [] => by simp [Value.lookup?]
  | (k, v) :: rest => by
    by_cases hk : k = .string key
    · subst hk
      rw [Value.lookup?, if_pos rfl]
      constructor
      · rintro ⟨⟩
        exact ⟨[], rest, rfl, nofun⟩
      · rintro ⟨_ | ⟨e, before⟩, after, he, hno⟩
        · cases he
          rfl
        · cases he
          exact absurd rfl (hno _ List.mem_cons_self)
    · have hskip : Value.lookup? key ((k, v) :: rest) = Value.lookup? key rest := by
        cases k with
        | string k => exact if_neg fun h => hk (congrArg Value.string h)
        | _ => rfl
      rw [hskip, lookup?_eq_some_iff]
      constructor
      · rintro ⟨before, after, rfl, hno⟩
        exact ⟨(k, v) :: before, after, rfl, List.forall_mem_cons.mpr ⟨hk, hno⟩⟩
      · rintro ⟨_ | ⟨e, before⟩, after, he, hno⟩
        · cases he
          exact absurd rfl hk
        · cases he
          exact ⟨before, after, rfl, fun e he => hno e (List.mem_cons_of_mem _ he)⟩

theorem get?_eq_some_iff {v : Value} {key : Text} {content : Value} :
    v.get? key = some content ↔ Stands v key content := by
  unfold Value.get? Stands
  cases v.untag with
  | mapping entries => simp [lookup?_eq_some_iff]
  | _ => simp

theorem items?_eq_some_iff {v : Value} {vs : List Value} :
    v.items? = some vs ↔ v.untag = .sequence vs := by
  unfold Value.items?
  cases v.untag <;> simp

theorem isNull_iff {v : Value} : v.isNull = true ↔ v.untag = .null := by
  unfold Value.isNull
  cases v.untag <;> simp

theorem Stands.unique {v : Value} {key : Text} {content content' : Value}
    (h : Stands v key content) (h' : Stands v key content') : content = content' :=
  Option.some.inj ((get?_eq_some_iff.mpr h).symm.trans (get?_eq_some_iff.mpr h'))

/-- What stands under a key is what is given for the field of that name. -/
theorem Stands.under {content v : Value} {key : Text} (h : Stands content key v)
    {named : List (Text × Value)} (hnamed : Entries content named) {fields : List (List Text)}
    (honce : Record.Once fields named) (hkey : [key] ∈ fields) :
    MangaPress.under [key] named = some v := by
  obtain ⟨before, after, hmapping, -⟩ := h
  rw [honce.under_eq_some_iff hkey]
  cases hnamed with
  | null hnull =>
    rw [hmapping] at hnull
    cases hnull
  | mapping hentries hkeys =>
    rw [hmapping] at hentries
    cases hentries
    obtain ⟨m, rest, ⟨htext, hvalue⟩, -, hdrop⟩ := List.forall₂_cons_right_iff.mp
      (List.forall₂_drop_append named before _ hkeys.flip)
    have hm : m ∈ named := List.mem_of_mem_drop (hdrop ▸ List.mem_cons_self)
    obtain rfl : key = m.1 := Value.string.inj htext
    exact ⟨m, hm, List.mem_singleton_self _, hvalue.symm⟩

end Schema

namespace Page

open Schema

/-- The text is not blank, and a YAML document. -/
def IsDocument (t : Text) (document : Value) : Prop :=
  (¬ ∀ c ∈ t, Text.isBlank c) ∧ Value.parse? t = some document

/-- The document is a mapping with something under `comic_page`. -/
def HoldsPage (document content : Value) : Prop :=
  Stands document "comic_page" content ∧ content.untag ≠ .null

/-- The content is a mapping with panels: under `panels` stands a sequence with an item. -/
def HoldsPanels (content : Value) : Prop :=
  ∃ panels v vs, Stands content "panels" panels ∧ panels.untag = .sequence (v :: vs)

/-! ### The two looks at the document -/

theorem holdsPage_iff {document content : Value} :
    ((document.get? "comic_page").filter fun v => !v.isNull) = some content ↔
      HoldsPage document content := by
  rw [Option.filter_eq_some_iff, get?_eq_some_iff, HoldsPage, Bool.not_eq_true',
    ← Bool.not_eq_true, isNull_iff]

theorem holdsPanels_iff {content : Value} :
    HoldsPanels content ↔
      ∃ v vs, (content.get? "panels").bind Value.items? = some (v :: vs) := by
  simp only [HoldsPanels, Option.bind_eq_some_iff, get?_eq_some_iff, items?_eq_some_iff]
  constructor
  · rintro ⟨panels, v, vs, h⟩
    exact ⟨v, vs, panels, h⟩
  · rintro ⟨v, vs, panels, h⟩
    exact ⟨panels, v, vs, h⟩

/-- How far a document gets. -/
theorem ofDocument_cases (document : Value) :
    ((¬ ∃ content, HoldsPage document content) ∧
      ofDocument document = .error .missingComicPage) ∨
    ∃ content, HoldsPage document content ∧
      ((¬ HoldsPanels content ∧ ofDocument document = .error .missingPanels) ∨
        (HoldsPanels content ∧
          ofDocument document = (ofValue .yaml content).mapError .shape)) := by
  unfold ofDocument
  cases hc : (document.get? "comic_page").filter fun v => !v.isNull with
  | none =>
    refine .inl ⟨?_, rfl⟩
    rintro ⟨content, h⟩
    rw [holdsPage_iff.mpr h] at hc
    cases hc
  | some content =>
    refine .inr ⟨content, holdsPage_iff.mp hc, ?_⟩
    rw [holdsPanels_iff]
    dsimp only
    cases (content.get? "panels").bind Value.items? with
    | none => exact .inl ⟨by simp, rfl⟩
    | some items =>
      cases items with
      | nil => exact .inl ⟨by simp, rfl⟩
      | cons v vs =>
        refine .inr ⟨⟨v, vs, rfl⟩, ?_⟩
        dsimp only
        cases ofValue .yaml content <;> rfl

/-- A page that is described where there are panels has a panel. -/
theorem panels_ne_nil {content : Value} {page : Page} (hpanels : HoldsPanels content)
    (h : Describes Page.Fits content page) : page.panels ≠ [] := by
  obtain ⟨named, hnamed, hfits⟩ := h
  obtain ⟨panels, v, vs, hstands, hsequence⟩ := hpanels
  obtain ⟨items, hitems, hall⟩ := hfits.panels
  rw [Stands.under hstands hnamed hfits.once (by simp)] at hitems
  cases hitems with
  | null hnull =>
    rw [hnull] at hsequence
    cases hsequence
  | sequence hitems =>
    rw [hitems] at hsequence
    cases hsequence
    obtain ⟨p, ps, -, -, hps⟩ := List.forall₂_cons_left_iff.mp hall
    rw [hps]
    exact List.cons_ne_nil p ps

theorem panels_ne_nil_of_ofDocument {document : Value} {page : Page}
    (h : ofDocument document = .ok page) : page.panels ≠ [] := by
  rcases ofDocument_cases document with ⟨-, hno⟩ | ⟨content, -, ⟨-, hno⟩ | ⟨hpanels, hread⟩⟩
  · rw [hno] at h
    cases h
  · rw [hno] at h
    cases h
  · rw [hread] at h
    cases hv : ofValue .yaml content with
    | error e =>
      rw [hv] at h
      cases h
    | ok page' =>
      rw [hv] at h
      cases h
      exact panels_ne_nil hpanels (ofValue_eq_ok_iff.mp hv)

/-- A page that is read has a panel. -/
theorem panels_ne_nil_of_parse {t : Text} {page : Page} (h : Page.parse t = .ok page) :
    page.panels ≠ [] := by
  unfold Page.parse at h
  split at h
  · cases h
  · split at h
    · cases h
    · exact panels_ne_nil_of_ofDocument h

/-- What is said of the content that a document holds is said of the one it holds. -/
theorem HoldsPage.exists_iff {document content : Value} (h : HoldsPage document content)
    {P : Value → Prop} : (∃ content, HoldsPage document content ∧ P content) ↔ P content := by
  constructor
  · rintro ⟨content', h', hP⟩
    rwa [h.1.unique h'.1]
  · exact fun hP => ⟨content, h, hP⟩

/-- Each outcome of reading a document, told from the document. -/
theorem ofDocument_grammar (document : Value) :
    (ofDocument document ≠ .error .empty ∧ ofDocument document ≠ .error .syntaxError) ∧
    (ofDocument document = .error .missingComicPage ↔ ¬ ∃ content, HoldsPage document content) ∧
    (ofDocument document = .error .missingPanels ↔
      ∃ content, HoldsPage document content ∧ ¬ HoldsPanels content) ∧
    (∀ page, ofDocument document = .ok page ↔
      ∃ content, HoldsPage document content ∧ HoldsPanels content ∧
        Describes Page.Fits content page) ∧
    ((∃ e, ofDocument document = .error (.shape e)) ↔
      ∃ content, HoldsPage document content ∧ HoldsPanels content ∧
        ¬ ∃ page, Describes Page.Fits content page) := by
  simp only [← ofValue_eq_ok_iff]
  rcases ofDocument_cases document with ⟨hno, h⟩ | ⟨content, hc, h⟩
  · rw [h]
    refine ⟨⟨nofun, nofun⟩, ⟨fun _ => hno, fun _ => rfl⟩, ⟨nofun, ?_⟩, fun page => ⟨nofun, ?_⟩,
      ⟨nofun, ?_⟩⟩ <;>
      exact fun ⟨content, hc, _⟩ => absurd ⟨content, hc⟩ hno
  · simp only [hc.exists_iff]
    have hsome : ∃ content, HoldsPage document content := ⟨content, hc⟩
    rcases h with ⟨hno, h⟩ | ⟨hp, h⟩
    · simp [h, hno, hsome]
    · rw [h]
      cases ofValue .yaml content <;> simp [Except.mapError, hp, hsome]

/-- **Each outcome of reading a text, told from the text.** It is empty if it is blank, and has a
syntax error if it is not a YAML document. A document is without `comic_page` if nothing but perhaps
null stands there, and without panels if it holds a page with none. Otherwise it is read as the page
that is described there, and has the wrong shape if there is no such page. -/
theorem parse_grammar (t : Text) :
    (Page.parse t = .error .empty ↔ ∀ c ∈ t, Text.isBlank c) ∧
    (Page.parse t = .error .syntaxError ↔
      (¬ ∀ c ∈ t, Text.isBlank c) ∧ Value.parse? t = none) ∧
    (Page.parse t = .error .missingComicPage ↔
      ∃ document, IsDocument t document ∧ ¬ ∃ content, HoldsPage document content) ∧
    (Page.parse t = .error .missingPanels ↔
      ∃ document, IsDocument t document ∧
        ∃ content, HoldsPage document content ∧ ¬ HoldsPanels content) ∧
    (∀ page, Page.parse t = .ok page ↔
      ∃ document, IsDocument t document ∧
        ∃ content, HoldsPage document content ∧ HoldsPanels content ∧
          Describes Page.Fits content page) ∧
    ((∃ e, Page.parse t = .error (.shape e)) ↔
      ∃ document, IsDocument t document ∧
        ∃ content, HoldsPage document content ∧ HoldsPanels content ∧
          ¬ ∃ page, Describes Page.Fits content page) := by
  have hblank : Text.allBlank t = true ↔ ∀ c ∈ t, Text.isBlank c := List.all_eq_true
  unfold Page.parse IsDocument
  rw [← hblank]
  by_cases hb : Text.allBlank t = true
  · simp [hb]
  · rw [if_neg hb]
    cases hp : Value.parse? t with
    | none => simp [hb]
    | some document =>
      obtain ⟨⟨hempty, hsyntax⟩, hcomic, hpanels, hok, hshape⟩ := ofDocument_grammar document
      simp [hb, hempty, hsyntax, hcomic, hpanels, hok, hshape]

end Page

end MangaPress
