/-
# Missing, null and empty

A text that may be absent can be absent in three ways: its key is missing, it is null, or it is empty.
Whatever the page, and wherever in it the text stands, the three are interchangeable: the document
stays one of a page, and the prompt is the same. So are a missing key, null and the empty sequence for
the sequences of a page. The text of a line of speech is the exception: it may be missing or empty,
but a document with null there is none of a page.

Key definitions: `Page.Place`, `Page.Place.Edits`, `Page.Edited`, `Page.SamePrompt`.
Key theorems: `Page.Place.interchangeable_of_text`, `Page.Place.interchangeable_of_items`,
`Page.absences_interchangeable`.
-/
import MangaPress.Proofs.Page.Edit
import MangaPress.Proofs.Page.Grammar
import MangaPress.Proofs.Prompt.Document

namespace MangaPress

open Schema
open Yaml (Value)

/-- How a text can be absent: the key is missing, or null or the empty text stands under it. -/
def absentText : List (Option Value) :=
  [none, some .null, some (.string [])]

/-- How a sequence can be absent. -/
def absentItems : List (Option Value) :=
  [none, some .null, some (.sequence [])]

namespace Page

/-- A place in the content of a document. -/
inductive Place where
  | page
  /-- A recurring character. -/
  | design (i : Nat)
  | panel (i : Nat)
  /-- An appearance in a panel. -/
  | appearance (i j : Nat)
  /-- A line of speech of an appearance. -/
  | line (i j k : Nat)

namespace Place

/-- `w` is the content `v` with an edit of what stands at the place. -/
def Edits (R : Value → Value → Prop) : Place → Value → Value → Prop
  | page => R
  | design i => Within ["character_infos"] (AtItem i R)
  | panel i => Within ["panels"] (AtItem i R)
  | appearance i j => Within ["panels"] (AtItem i (Within ["characters"] (AtItem j R)))
  | line i j k =>
    Within ["panels"] (AtItem i (Within ["characters"] (AtItem j (Within ["lines"] (AtItem k R)))))

/-- The names of the texts that may be absent in each way. -/
def texts : Place → List (List Text)
  | page => [["language"], ["style"], ["color_mode"], ["aspect_ratio"],
      ["writing-mode", "writing_mode"], ["instructions"], ["layout_constraints"]]
  | design _ => [["base_prompt"]]
  | panel _ => [["page_position"], ["background"], ["description"], ["camera_angle"]]
  | appearance _ _ => [["panel_position"], ["emotion"], ["facing"], ["shot"], ["pose"],
      ["description"]]
  | line _ _ _ => [["char_text_position"], ["type"]]

/-- The names of the sequences that may be absent. -/
def sequences : Place → List (List Text)
  | page => [["character_infos"]]
  | design _ => []
  | panel _ => [["effects"], ["monologues"], ["characters"]]
  | appearance _ _ => [["lines"]]
  | line _ _ _ => []

end Place

end Page

/-! ### Each record -/

section Records

open List (mem_of_getElem?)

variable {R : Value → Value → Prop}

/-- The texts of a line of speech but for its own can be absent in each way, and no prompt shows
them. -/
theorem DialogueLine.interchangeable_of_text :
    ∀ names ∈ ([["char_text_position"], ["type"]] : List (List Text)),
      Interchangeable (Shape.record .yaml "DialogueLine" record) text
        (Respells names absentText) := by
  simp only [List.forall_mem_cons, List.not_mem_nil, false_implies, implies_true, and_true]
  and_intros
  · exact Schema.interchangeable_of_text orderless (mem_of_getElem? (i := 1) rfl) rfl fun _ => rfl
  · exact Schema.interchangeable_of_text orderless (mem_of_getElem? (i := 2) rfl) rfl fun _ => rfl

/-- The text of a line of speech can be missing or empty. -/
theorem DialogueLine.interchangeable_of_spoken :
    Interchangeable (Shape.record .yaml "DialogueLine" record) text
      (Respells ["text"] [none, some (.string [])]) :=
  interchangeable_of_blank orderless (mem_of_getElem? (i := 0) rfl) (by decide) text fun x hx => by
    obtain rfl : x = .string [] := by simpa using hx
    rfl

/-- It cannot be null. -/
theorem DialogueLine.refuses_null :
    Refuses (Shape.record .yaml "DialogueLine" record) (Respells ["text"] [some .null]) := by
  rintro v s w h ⟨o, ho, hw⟩ s' hs'
  obtain rfl := List.mem_singleton.mp ho
  obtain ⟨rest, hedits, -⟩ :=
    record_replaces orderless (mem_of_getElem? (l := record.fields) (i := 0) rfl) h
  cases (hedits _ w hw s').mp hs'

/-- What a prompt shows of the lines of an appearance are their texts. -/
theorem Appearance.view_of_lines {ls ls' : List DialogueLine} (a : Appearance)
    (h : ls.map DialogueLine.text = ls'.map DialogueLine.text) :
    view { a with lines := ls } = view { a with lines := ls' } := by
  have hfirst : firstLine { a with lines := ls } = firstLine { a with lines := ls' } := by
    cases ls with
    | nil =>
      obtain rfl := List.map_eq_nil_iff.mp h.symm
      rfl
    | cons l ls =>
      cases ls' with
      | nil => cases h
      | cons l' ls' => exact (List.cons.inj h).1
  unfold view
  rw [hfirst]
  rfl

theorem Appearance.interchangeable_of_line
    (h : Interchangeable (Shape.record .yaml "DialogueLine" DialogueLine.record)
      DialogueLine.text R) (k : Nat) :
    Interchangeable (Shape.record .yaml "PanelCharacter" (record .yaml)) view
      (Within ["lines"] (AtItem k R)) :=
  h.within orderless (mem_of_getElem? (i := 7) rfl) (fun _ _ => rfl)
    (fun _ _ a hlines => a.view_of_lines hlines) k

theorem Appearance.interchangeable_of_text :
    ∀ names ∈ ([["panel_position"], ["emotion"], ["facing"], ["shot"], ["pose"],
      ["description"]] : List (List Text)),
      Interchangeable (Shape.record .yaml "PanelCharacter" (record .yaml)) view
        (Respells names absentText) := by
  simp only [List.forall_mem_cons, List.not_mem_nil, false_implies, implies_true, and_true]
  and_intros
  · exact Schema.interchangeable_of_text orderless (mem_of_getElem? (i := 1) rfl) rfl fun _ => rfl
  · exact Schema.interchangeable_of_text orderless (mem_of_getElem? (i := 2) rfl) rfl fun _ => rfl
  · exact Schema.interchangeable_of_text orderless (mem_of_getElem? (i := 3) rfl) rfl fun _ => rfl
  · exact Schema.interchangeable_of_text orderless (mem_of_getElem? (i := 4) rfl) rfl fun _ => rfl
  · exact Schema.interchangeable_of_text orderless (mem_of_getElem? (i := 5) rfl) rfl fun _ => rfl
  · exact Schema.interchangeable_of_text orderless (mem_of_getElem? (i := 6) rfl) rfl fun _ => rfl

/-- The sequences of which a field makes nothing are none, null and the empty one. -/
theorem interchangeable_of_items {σ γ : Type} {r : Record Value ShapeError σ}
    {f : Field Value ShapeError σ} {name : Text} (hr : r.Orderless) (hf : f ∈ r.fields)
    (hp : f.presence ≠ .required) (view : σ → γ) (hnull : f.read .null r.blank = .ok r.blank)
    (hempty : f.read (.sequence []) r.blank = .ok r.blank) :
    Interchangeable (Shape.record .yaml name r) view (Respells f.names absentItems) :=
  interchangeable_of_blank hr hf hp view fun x hx => by
    have hx : x = .null ∨ x = .sequence [] := by simpa [absentItems] using hx
    rcases hx with rfl | rfl
    · exact hnull
    · exact hempty

theorem Appearance.interchangeable_of_lines :
    Interchangeable (Shape.record .yaml "PanelCharacter" (record .yaml)) view
      (Respells ["lines"] absentItems) :=
  interchangeable_of_items orderless (mem_of_getElem? (i := 7) rfl) (by decide) view rfl rfl

theorem Panel.interchangeable_of_appearance
    (h : Interchangeable (Shape.record .yaml "PanelCharacter" (Appearance.record .yaml))
      Appearance.view R) (j : Nat) :
    Interchangeable (Shape.record .yaml "Panel" (record .yaml)) view
      (Within ["characters"] (AtItem j R)) :=
  h.within orderless (mem_of_getElem? (i := 7) rfl) (fun _ _ => rfl)
    (fun _ _ p hviews => congrArg (fun views => { p.view with characters := views }) hviews) j

theorem Panel.interchangeable_of_text :
    ∀ names ∈ ([["page_position"], ["background"], ["description"],
      ["camera_angle"]] : List (List Text)),
      Interchangeable (Shape.record .yaml "Panel" (record .yaml)) view
        (Respells names absentText) := by
  simp only [List.forall_mem_cons, List.not_mem_nil, false_implies, implies_true, and_true]
  and_intros
  · exact Schema.interchangeable_of_text orderless (mem_of_getElem? (i := 1) rfl) rfl fun _ => rfl
  · exact Schema.interchangeable_of_text orderless (mem_of_getElem? (i := 2) rfl) rfl fun _ => rfl
  · exact Schema.interchangeable_of_text orderless (mem_of_getElem? (i := 3) rfl) rfl fun _ => rfl
  · exact Schema.interchangeable_of_text orderless (mem_of_getElem? (i := 4) rfl) rfl fun _ => rfl

theorem Panel.interchangeable_of_sequence :
    ∀ names ∈ ([["effects"], ["monologues"], ["characters"]] : List (List Text)),
      Interchangeable (Shape.record .yaml "Panel" (record .yaml)) view
        (Respells names absentItems) := by
  simp only [List.forall_mem_cons, List.not_mem_nil, false_implies, implies_true, and_true]
  and_intros
  · exact interchangeable_of_items orderless (mem_of_getElem? (i := 5) rfl) (by decide) view rfl rfl
  · exact interchangeable_of_items orderless (mem_of_getElem? (i := 6) rfl) (by decide) view rfl rfl
  · exact interchangeable_of_items orderless (mem_of_getElem? (i := 7) rfl) (by decide) view rfl rfl

theorem CharacterDesign.interchangeable_of_text :
    Interchangeable (Shape.record .yaml "CharacterIdentity" record) view
      (Respells ["base_prompt"] absentText) :=
  Schema.interchangeable_of_text orderless (mem_of_getElem? (i := 1) rfl) rfl fun _ => rfl

theorem Page.interchangeable_of_design
    (h : Interchangeable (Shape.record .yaml "CharacterIdentity" CharacterDesign.record)
      CharacterDesign.view R) (i : Nat) :
    Interchangeable (ofValue .yaml) view (Within ["character_infos"] (AtItem i R)) :=
  h.within orderless (mem_of_getElem? (i := 7) rfl) (fun _ _ => rfl)
    (fun _ _ p hviews => congrArg (fun views => { p.view with characters := views }) hviews) i

theorem Page.interchangeable_of_panel
    (h : Interchangeable (Shape.record .yaml "Panel" (Panel.record .yaml)) Panel.view R) (i : Nat) :
    Interchangeable (ofValue .yaml) view (Within ["panels"] (AtItem i R)) :=
  h.within orderless (mem_of_getElem? (i := 8) rfl) (fun _ _ => rfl)
    (fun _ _ p hviews => congrArg (fun views => { p.view with panels := views }) hviews) i

theorem Page.interchangeable_of_text :
    ∀ names ∈ ([["language"], ["style"], ["color_mode"], ["aspect_ratio"],
      ["writing-mode", "writing_mode"], ["instructions"],
      ["layout_constraints"]] : List (List Text)),
      Interchangeable (ofValue .yaml) view (Respells names absentText) := by
  simp only [List.forall_mem_cons, List.not_mem_nil, false_implies, implies_true, and_true]
  and_intros
  · exact Schema.interchangeable_of_text orderless (mem_of_getElem? (i := 0) rfl) rfl fun _ => rfl
  · exact Schema.interchangeable_of_text orderless (mem_of_getElem? (i := 1) rfl) rfl fun _ => rfl
  · exact Schema.interchangeable_of_text orderless (mem_of_getElem? (i := 2) rfl) rfl fun _ => rfl
  · exact Schema.interchangeable_of_text orderless (mem_of_getElem? (i := 3) rfl) rfl fun _ => rfl
  · exact Schema.interchangeable_of_text orderless (mem_of_getElem? (i := 4) rfl) rfl fun _ => rfl
  · exact Schema.interchangeable_of_text orderless (mem_of_getElem? (i := 5) rfl) rfl fun _ => rfl
  · exact Schema.interchangeable_of_text orderless (mem_of_getElem? (i := 6) rfl) rfl fun _ => rfl

theorem Page.interchangeable_of_designs :
    Interchangeable (ofValue .yaml) view (Respells ["character_infos"] absentItems) :=
  interchangeable_of_items orderless (mem_of_getElem? (i := 7) rfl) (by decide) view rfl rfl

end Records

/-! ### Each place -/

namespace Page

namespace Place

theorem interchangeable_of_text (place : Place) : ∀ names ∈ place.texts,
    Interchangeable (ofValue .yaml) view (place.Edits (Respells names absentText)) := by
  intro names hnames
  cases place with
  | page => exact Page.interchangeable_of_text names hnames
  | design i =>
    obtain rfl := List.mem_singleton.mp hnames
    exact interchangeable_of_design CharacterDesign.interchangeable_of_text i
  | panel i => exact interchangeable_of_panel (Panel.interchangeable_of_text names hnames) i
  | appearance i j =>
    have happearance := Appearance.interchangeable_of_text names hnames
    exact interchangeable_of_panel (Panel.interchangeable_of_appearance happearance j) i
  | line i j k =>
    have hline := DialogueLine.interchangeable_of_text names hnames
    exact interchangeable_of_panel
      (Panel.interchangeable_of_appearance (Appearance.interchangeable_of_line hline k) j) i

theorem interchangeable_of_sequence (place : Place) : ∀ names ∈ place.sequences,
    Interchangeable (ofValue .yaml) view (place.Edits (Respells names absentItems)) := by
  intro names hnames
  cases place with
  | page =>
    obtain rfl := List.mem_singleton.mp hnames
    exact interchangeable_of_designs
  | panel i => exact interchangeable_of_panel (Panel.interchangeable_of_sequence names hnames) i
  | appearance i j =>
    obtain rfl := List.mem_singleton.mp hnames
    exact interchangeable_of_panel
      (Panel.interchangeable_of_appearance Appearance.interchangeable_of_lines j) i
  | design _ | line _ _ _ => cases hnames

theorem interchangeable_of_spoken (i j k : Nat) : Interchangeable (ofValue .yaml) view
    ((line i j k).Edits (Respells ["text"] [none, some (.string [])])) :=
  interchangeable_of_panel (Panel.interchangeable_of_appearance
    (Appearance.interchangeable_of_line DialogueLine.interchangeable_of_spoken k) j) i

theorem refuses_null (i j k : Nat) :
    Refuses (ofValue .yaml) ((line i j k).Edits (Respells ["text"] [some .null])) := by
  have happearance : Refuses (Shape.record .yaml "PanelCharacter" (Appearance.record .yaml))
      (Within ["lines"] (AtItem k (Respells ["text"] [some .null]))) :=
    DialogueLine.refuses_null.within Appearance.orderless (List.mem_of_getElem? (i := 7) rfl)
      (fun _ _ => rfl) k
  have hpanel : Refuses (Shape.record .yaml "Panel" (Panel.record .yaml)) (Within ["characters"]
      (AtItem j (Within ["lines"] (AtItem k (Respells ["text"] [some .null]))))) :=
    happearance.within Panel.orderless (List.mem_of_getElem? (i := 7) rfl) (fun _ _ => rfl) j
  exact hpanel.within Page.orderless (List.mem_of_getElem? (i := 8) rfl) (fun _ _ => rfl) i

end Place

/-! ### The document -/

theorem lookup?_filter {names : List Text} {key : Text} (hkey : key ∉ names) :
    ∀ entries : List (Value × Value),
    Value.lookup? key (entries.filter fun e => !isUnder names e.1) = Value.lookup? key entries
  | [] => rfl
  | (k, v) :: rest => by
    have ih := lookup?_filter hkey rest
    cases hk : isUnder names k with
    | true =>
      have hskip : Value.lookup? key ((k, v) :: rest) = Value.lookup? key rest := by
        cases k with
        | string t =>
          refine if_neg ?_
          rintro rfl
          exact hkey (List.contains_iff_mem.mp hk)
        | _ => rfl
      rw [List.filter_cons_of_neg (by simp [hk]), ih, hskip]
    | false =>
      rw [List.filter_cons_of_pos (by simp [hk])]
      cases k with
      | string t => rw [Value.lookup?, Value.lookup?, ih]
      | _ => exact ih

theorem get?_of_hasEntries {v : Value} {entries : List (Value × Value)} (h : HasEntries v entries)
    (key : Text) : v.get? key = Value.lookup? key entries := by
  obtain hv | hv := h <;> rw [Value.get?, hv]
  rfl

theorem get?_of_replaces {names : List Text} {o : Option Value} {v w : Value} {key : Text}
    (h : Replaces names o v w) (hkey : key ∉ names) : w.get? key = v.get? key := by
  obtain ⟨entries, entries', hv, hw, hothers, -⟩ := h
  rw [get?_of_hasEntries hw, get?_of_hasEntries hv, ← lookup?_filter hkey entries', hothers,
    lookup?_filter hkey entries]

/-- What is found under a key where one value is another is the same, or is the other one. -/
theorem lookup?_of_other {key : Text} {k x y p : Value} {after : List (Value × Value)} :
    ∀ {before : List (Value × Value)}, Value.lookup? key (before ++ (k, x) :: after) = some p →
      Value.lookup? key (before ++ (k, y) :: after) = some p ∨
        p = x ∧ Value.lookup? key (before ++ (k, y) :: after) = some y
  | [], h => by
    cases k with
    | string t =>
      by_cases ht : t = key
      · rw [List.nil_append, Value.lookup?, if_pos ht] at h
        exact .inr ⟨(Option.some.inj h).symm, if_pos ht⟩
      · rw [List.nil_append, Value.lookup?, if_neg ht] at h
        exact .inl ((if_neg ht).trans h)
    | _ => exact .inl h
  | (k', v') :: before, h => by
    cases k' with
    | string t =>
      rw [List.cons_append, Value.lookup?] at h ⊢
      by_cases ht : t = key
      · rw [if_pos ht] at h ⊢
        exact .inl h
      · rw [if_neg ht] at h ⊢
        exact lookup?_of_other h
    | _ =>
      change Value.lookup? key (before ++ (k, x) :: after) = some p at h
      have ih : Value.lookup? key (before ++ (k, y) :: after) = some p ∨
          p = x ∧ Value.lookup? key (before ++ (k, y) :: after) = some y := lookup?_of_other h
      exact ih

variable {v w : Value} {names : List Text} {R : Value → Value → Prop}

theorem holdsPanels_of_replaces {o : Option Value} (h : HoldsPanels v) (hw : Replaces names o v w)
    (hnames : "panels".toList ∉ names) : HoldsPanels w := by
  rw [holdsPanels_iff] at h ⊢
  rwa [get?_of_replaces hw hnames]

theorem holdsPanels_of_within {i : Nat} (h : HoldsPanels v) (hw : Within names (AtItem i R) v w) :
    HoldsPanels w := by
  obtain ⟨panels, p, ps, hstands, hpanels⟩ := h
  obtain ⟨before, key, x, y, after, hv, hw, -, items, a, b, hx, -, hy, -⟩ := hw
  have hfound : Value.lookup? "panels" (before ++ (key, x) :: after) = some panels := by
    rw [← get?_of_hasEntries (.mapping hv)]
    exact get?_eq_some_iff.mpr hstands
  have hget := get?_of_hasEntries (.mapping hw) "panels"
  rcases lookup?_of_other (y := y) hfound with hsame | ⟨rfl, hother⟩
  · exact ⟨panels, p, ps, get?_eq_some_iff.mp (hget.trans hsame), hpanels⟩
  · -- As many panels stand there as before.
    obtain rfl := Value.sequence.inj (hpanels.symm.trans hx)
    obtain ⟨q, qs, hqs⟩ : ∃ q qs, (p :: ps).set i b = q :: qs := by
      cases i with
      | zero => exact ⟨_, _, rfl⟩
      | succ i => exact ⟨_, _, rfl⟩
    exact ⟨y, q, qs, get?_eq_some_iff.mp (hget.trans hother), hy.trans (congrArg _ hqs)⟩

theorem Place.holdsPanels (place : Place) {given : List (Option Value)} (h : HoldsPanels v)
    (hw : place.Edits (Respells names given) v w)
    (hnames : place = .page → "panels".toList ∉ names) : HoldsPanels w := by
  cases place with
  | page =>
    obtain ⟨o, -, hw⟩ := hw
    exact holdsPanels_of_replaces h hw (hnames rfl)
  | design _ | panel _ | appearance _ _ | line _ _ _ => exact holdsPanels_of_within h hw

theorem Place.texts_no_panels {place : Place} (hnames : names ∈ place.texts)
    (hplace : place = .page) : "panels".toList ∉ names := by
  subst hplace
  have hall : ∀ names ∈ texts .page, "panels".toList ∉ names := by decide
  exact hall names hnames

theorem Place.sequences_no_panels {place : Place} (hnames : names ∈ place.sequences)
    (hplace : place = .page) : "panels".toList ∉ names := by
  subst hplace
  have hall : ∀ names ∈ sequences .page, "panels".toList ∉ names := by decide
  exact hall names hnames

variable {t t' t'' : Text} {document content : Value} {page : Page}

theorem parse_of_isDocument (h : IsDocument t document) : Page.parse t = ofDocument document := by
  obtain ⟨hblank, hparse⟩ := h
  have hno : ¬ Text.allBlank t = true := fun hall => hblank (List.all_eq_true.mp hall)
  unfold Page.parse
  rw [if_neg hno, hparse]

theorem ofDocument_of_holdsPage (h : HoldsPage document content) :
    (¬ HoldsPanels content ∧ ofDocument document = .error .missingPanels) ∨
      HoldsPanels content ∧ ofDocument document = (ofValue .yaml content).mapError .shape := by
  rcases ofDocument_cases document with ⟨hno, -⟩ | ⟨content', h', hcases⟩
  · exact absurd ⟨content, h⟩ hno
  · rwa [h.1.unique h'.1]

/-- Where the content of a document has panels, reading the document is reading the content. -/
theorem parse_of_holdsPanels (hdocument : IsDocument t document) (hpage : HoldsPage document content)
    (hpanels : HoldsPanels content) :
    Page.parse t = (ofValue .yaml content).mapError .shape := by
  rw [parse_of_isDocument hdocument]
  rcases ofDocument_of_holdsPage hpage with ⟨hno, -⟩ | ⟨-, h⟩
  · exact absurd hpanels hno
  · exact h

/-- A document is read as a page if its content has panels and is read as the page. -/
theorem parse_eq_ok_iff (hdocument : IsDocument t document) (hpage : HoldsPage document content) :
    Page.parse t = .ok page ↔ HoldsPanels content ∧ ofValue .yaml content = .ok page := by
  rw [parse_of_isDocument hdocument]
  rcases ofDocument_of_holdsPage hpage with ⟨hno, h⟩ | ⟨hpanels, h⟩
  · simp [h, hno]
  · rw [h]
    cases ofValue .yaml content <;> simp [Except.mapError, hpanels]

/-- The second text is a document whose content is an edit of that of the first. -/
def Edited (R : Value → Value → Prop) (t t' : Text) : Prop :=
  ∃ document content document' content', IsDocument t document ∧ HoldsPage document content ∧
    IsDocument t' document' ∧ HoldsPage document' content' ∧ R content content'

/-- Both texts are documents of pages, with the same prompt. -/
def SamePrompt (t t' : Text) : Prop :=
  ∃ page page', Page.parse t = .ok page ∧ Page.parse t' = .ok page' ∧ page.prompt = page'.prompt

theorem samePrompt_of_interchangeable (h : Interchangeable (ofValue .yaml) view R)
    (hpanels : ∀ ⦃v w⦄, HoldsPanels v → R v w → HoldsPanels w) (hparse : Page.parse t = .ok page)
    (ht' : Edited R t t') (ht'' : Edited R t t'') : SamePrompt t' t'' := by
  obtain ⟨d, v, d', w', hd, hv, hd', hw', hR'⟩ := ht'
  obtain ⟨_, _, d'', w'', hother, hother', hd'', hw'', hR''⟩ := ht''
  obtain rfl := Option.some.inj (hd.2.symm.trans hother.2)
  obtain rfl := hv.1.unique hother'.1
  obtain ⟨hholds, hread⟩ := (parse_eq_ok_iff hd hv).mp hparse
  obtain ⟨p', p'', hp', hp'', hview⟩ := h hread hR' hR''
  refine ⟨p', p'', (parse_eq_ok_iff hd' hw').mpr ⟨hpanels hholds hR', hp'⟩,
    (parse_eq_ok_iff hd'' hw'').mpr ⟨hpanels hholds hR'', hp''⟩, ?_⟩
  rw [prompt_eq_document, prompt_eq_document, hview]

theorem shape_of_refuses (h : Refuses (ofValue .yaml) R)
    (hpanels : ∀ ⦃v w⦄, HoldsPanels v → R v w → HoldsPanels w) (hparse : Page.parse t = .ok page)
    (ht' : Edited R t t') : ∃ e, Page.parse t' = .error (.shape e) := by
  obtain ⟨d, v, d', w', hd, hv, hd', hw', hR⟩ := ht'
  obtain ⟨hholds, hread⟩ := (parse_eq_ok_iff hd hv).mp hparse
  rw [parse_of_holdsPanels hd' hw' (hpanels hholds hR)]
  cases hread' : ofValue .yaml w' with
  | error e => exact ⟨e, rfl⟩
  | ok page' => exact absurd hread' (h hread hR page')

/-- **Missing, null and empty are the same, wherever a text or a sequence may be absent.** Take any
document of a page and any place in it. For every text that may be absent there, two documents in
which it is absent in whichever of the three ways are both documents of pages, with the same prompt;
and so for every sequence. The text of a line of speech can be missing or empty, with the same
prompt, but a document in which it is null is none of a page. -/
theorem absences_interchangeable (hparse : Page.parse t = .ok page) (place : Place) :
    (∀ names ∈ place.texts, ∀ t' t'', Edited (place.Edits (Respells names absentText)) t t' →
      Edited (place.Edits (Respells names absentText)) t t'' → SamePrompt t' t'') ∧
    (∀ names ∈ place.sequences, ∀ t' t'', Edited (place.Edits (Respells names absentItems)) t t' →
      Edited (place.Edits (Respells names absentItems)) t t'' → SamePrompt t' t'') ∧
    ∀ i j k, place = .line i j k →
      (∀ t' t'', Edited (place.Edits (Respells ["text"] [none, some (.string [])])) t t' →
        Edited (place.Edits (Respells ["text"] [none, some (.string [])])) t t'' →
          SamePrompt t' t'') ∧
      ∀ t', Edited (place.Edits (Respells ["text"] [some .null])) t t' →
        ∃ e, Page.parse t' = .error (.shape e) := by
  refine ⟨fun names hnames t' t'' => ?_, fun names hnames t' t'' => ?_, ?_⟩
  · exact samePrompt_of_interchangeable (place.interchangeable_of_text names hnames)
      (fun _ _ hv hw => place.holdsPanels hv hw (Place.texts_no_panels hnames)) hparse
  · exact samePrompt_of_interchangeable (place.interchangeable_of_sequence names hnames)
      (fun _ _ hv hw => place.holdsPanels hv hw (Place.sequences_no_panels hnames)) hparse
  · rintro i j k rfl
    refine ⟨fun t' t'' => ?_, fun t' => ?_⟩
    · exact samePrompt_of_interchangeable (Place.interchangeable_of_spoken i j k)
        (fun _ _ hv hw => Place.holdsPanels _ hv hw nofun) hparse
    · exact shape_of_refuses (Place.refuses_null i j k)
        (fun _ _ hv hw => Place.holdsPanels _ hv hw nofun) hparse

/-! ### A line of speech -/

/-- A document of one panel in which a character speaks one line. -/
def speaking (line : Text) : Text :=
  "comic_page:\n  panels:\n  - number: 1\n    characters:\n    - name: Ten\n      lines:\n      - " ++
    line

/-- The content of the document with the entries of the line. -/
def speech (line : List (Value × Value)) : Value :=
  .mapping [(.string "panels", .sequence [.mapping [
    (.string "number", .int 1),
    (.string "characters", .sequence [.mapping [
      (.string "name", .string "Ten"), (.string "lines", .sequence [.mapping line])]])]])]

/-- The events of the document with those of the entries of the line. -/
def speechEvents (line : List Yaml.Numbered) : List Yaml.Numbered :=
  [.mappingStart none, .scalar none "comic_page" true, .mappingStart none,
    .scalar none "panels" true, .sequenceStart none, .mappingStart none,
    .scalar none "number" true, .scalar none "1" true, .scalar none "characters" true,
    .sequenceStart none, .mappingStart none, .scalar none "name" true, .scalar none "Ten" true,
    .scalar none "lines" true, .sequenceStart none, .mappingStart none] ++ line ++
  [.mappingEnd, .sequenceEnd, .mappingEnd, .sequenceEnd, .mappingEnd, .sequenceEnd, .mappingEnd,
    .mappingEnd]

/-- A line without entries, or with a text. -/
inductive SpeechLine : List Yaml.Numbered → List (Value × Value) → Prop where
  | missing : SpeechLine [] []
  | text (t : Text) (plain : Bool) {v : Value}
    (h : (if plain = true then Yaml.Scalar.ofPlain? t else some (.string t)) = some v) :
    SpeechLine [.scalar none "text" true, .scalar none t plain] [(.string "text", v)]

theorem read?_speechEvents {events : List Yaml.Numbered} {line : List (Value × Value)}
    (h : SpeechLine events line) :
    Yaml.Reader.read? { events := speechEvents events, places := [] } =
      some (.mapping [(.string "comic_page", speech line)]) := by
  have hplain : ∀ t ∈ (["comic_page", "panels", "number", "characters", "name", "Ten", "lines",
      "text"] : List Text), Yaml.Scalar.ofPlain? t = some (.string t) := by
    simp only [List.forall_mem_cons, List.not_mem_nil, false_implies, implies_true, and_true]
    and_intros <;> rfl
  have hone : Yaml.Scalar.ofPlain? "1" = some (.int 1) := rfl
  simp at hplain hone
  cases h with
  | missing =>
    simp [speechEvents, speech, Yaml.Reader.read?, Yaml.maxDepth, Yaml.Reader.node,
      Yaml.Reader.entries, Yaml.Reader.items, Yaml.Reader.pendingTag?, Yaml.Reader.scalar?,
      Value.hasKey, Value.same, hplain, hone]
  | text _ _ h =>
    simp [speechEvents, speech, Yaml.Reader.read?, Yaml.maxDepth, Yaml.Reader.node,
      Yaml.Reader.entries, Yaml.Reader.items, Yaml.Reader.pendingTag?, Yaml.Reader.scalar?,
      Value.hasKey, Value.same, hplain, hone, h]

theorem isDocument_speaking {line : Text} {events : List Yaml.Numbered}
    {entries : List (Value × Value)}
    (hevents : Yaml.events? (speaking line) = some (speechEvents events, []))
    (h : SpeechLine events entries) :
    IsDocument (speaking line) (.mapping [(.string "comic_page", speech entries)]) := by
  have hfirst : 'c' ∈ speaking line := List.mem_append_left _ (by decide)
  refine ⟨fun hblank => absurd (hblank 'c' hfirst) (by decide), ?_⟩
  rw [Value.parse?_of_events hevents, read?_speechEvents h]

theorem holdsPage_speech (line : List (Value × Value)) :
    HoldsPage (.mapping [(.string "comic_page", speech line)]) (speech line) :=
  ⟨⟨[], [], rfl, nofun⟩, nofun⟩

theorem edits_speech {line line' : List (Value × Value)} (h : R (.mapping line) (.mapping line')) :
    (Place.line 0 0 0).Edits R (speech line) (speech line') := by
  refine ⟨[], _, _, _, [], rfl, rfl, rfl, _, _, _, rfl, rfl, rfl, ?_⟩
  refine ⟨[(.string "number", .int 1)], _, _, _, [], rfl, rfl, rfl, _, _, _, rfl, rfl, rfl, ?_⟩
  exact ⟨[(.string "name", .string "Ten")], _, _, _, [], rfl, rfl, rfl, _, _, _, rfl, rfl, rfl, h⟩

theorem isDocument_of_said :
    IsDocument (speaking "text: hi")
      (.mapping [(.string "comic_page", speech [(.string "text", .string "hi")])]) :=
  isDocument_speaking (by decide +kernel) (.text "hi" true rfl)

theorem isDocument_of_missing :
    IsDocument (speaking "\x7b\x7d") (.mapping [(.string "comic_page", speech [])]) :=
  isDocument_speaking (by decide +kernel) .missing

theorem isDocument_of_empty :
    IsDocument (speaking "text: ''")
      (.mapping [(.string "comic_page", speech [(.string "text", .string [])])]) :=
  isDocument_speaking (by decide +kernel) (.text [] false rfl)

theorem isDocument_of_null :
    IsDocument (speaking "text: null")
      (.mapping [(.string "comic_page", speech [(.string "text", .null)])]) :=
  isDocument_speaking (by decide +kernel) (.text "null" true rfl)

/-- A line that says something can have no text, or an empty one, but not null. -/
theorem absences_of_speech :
    SamePrompt (speaking "\x7b\x7d") (speaking "text: ''") ∧
      ∃ e, Page.parse (speaking "text: null") = .error (.shape e) := by
  have hparse : ∃ page, Page.parse (speaking "text: hi") = .ok page := by
    rw [parse_of_isDocument isDocument_of_said]
    exact ⟨_, rfl⟩
  obtain ⟨page, hparse⟩ := hparse
  obtain ⟨-, -, hline⟩ := absences_interchangeable hparse (.line 0 0 0)
  obtain ⟨hspoken, hnull⟩ := hline 0 0 0 rfl
  -- In each document the mapping of the line is another one.
  have hedited : ∀ {t : Text} {line : List (Value × Value)} {o : Option Value}
      {given : List (Option Value)}, IsDocument t (.mapping [(.string "comic_page", speech line)]) →
      o ∈ given → line = o.toList.map (fun v => (.string "text", v)) →
      Edited ((Place.line 0 0 0).Edits (Respells ["text"] given)) (speaking "text: hi") t := by
    rintro t line o given ht ho rfl
    refine ⟨_, _, _, _, isDocument_of_said, holdsPage_speech _, ht, holdsPage_speech _,
      edits_speech ⟨o, ho, _, _, .mapping rfl, .mapping rfl, ?_, ?_⟩⟩ <;>
      cases o <;> rfl
  exact ⟨hspoken _ _ (hedited isDocument_of_missing (o := none) (by simp) rfl)
      (hedited isDocument_of_empty (o := some (.string [])) (by simp) rfl),
    hnull _ (hedited isDocument_of_null (o := some .null) (by simp) rfl)⟩

/-- Null for the text of a line is the one absence that is not accepted: of the other two both are. -/
theorem parse_of_null_speech :
    (∃ page, Page.parse (speaking "\x7b\x7d") = .ok page) ∧
    (∃ page, Page.parse (speaking "text: ''") = .ok page) ∧
    Page.parse (speaking "text: null") = .error (.shape (.mistyped .null .text)) := by
  rw [parse_of_isDocument isDocument_of_missing, parse_of_isDocument isDocument_of_empty,
    parse_of_isDocument isDocument_of_null]
  exact ⟨⟨_, rfl⟩, ⟨_, rfl⟩, rfl⟩

end Page

end MangaPress
