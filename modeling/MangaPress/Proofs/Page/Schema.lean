/-
# The schema of pages

What a value must be to describe a page, said without regard to the order of its entries: each record
is a mapping (or null, which stands for one without entries) whose keys are strings, no field is
given twice, and under the names of each field stands a value of its kind. `Page.Fits` and its
siblings say this field by field, and with it what the page holds. Reading a value as a page succeeds
iff the value describes a page, and gives that page (`Page.ofValue_eq_ok_iff`).

Local tags are looked through wherever a text, a sequence or a record stands; a number carries none.

Key definitions: `Schema.OptionalText`, `Schema.Items`, `Schema.IsNumber`, `Schema.Describes`,
`DialogueLine.Fits`, `Appearance.Fits`, `CharacterDesign.Fits`, `Panel.Fits`, `Page.Fits`.
Key theorems: `Schema.record_eq_ok_iff`, `Schema.list_eq_ok_iff`, `Page.ofValue_eq_ok_iff`.
-/
import MangaPress.Page.Shape
import MangaPress.Proofs.Record
import MangaPress.Proofs.Text.Numeral

namespace MangaPress

namespace Schema

open Yaml (Value)

variable {α σ : Type}

/-! ### Kinds of values -/

/-- The value is the text. -/
def IsText (v : Value) (t : Text) : Prop :=
  v.untag = .string t

/-- A field that has to be given, with a value of the kind. -/
def Given (Kind : Value → α → Prop) (o : Option Value) (a : α) : Prop :=
  ∃ v, o = some v ∧ Kind v a

/-- A text that may be missing, and null. -/
inductive OptionalText : Option Value → Option Text → Prop where
  | absent : OptionalText none none
  | null : OptionalText (some .null) none
  | text {v : Value} {t : Text} (h : IsText v t) : OptionalText (some v) (some t)

/-- A text that may be missing, but not null; a missing one is empty. -/
inductive TextOrEmpty : Option Value → Text → Prop where
  | absent : TextOrEmpty none []
  | text {v : Value} {t : Text} (h : IsText v t) : TextOrEmpty (some v) t

/-- A sequence that may be missing, and null; it then has no items. -/
inductive Items : Option Value → List Value → Prop where
  | absent : Items none []
  | null {v : Value} (h : v.untag = .null) : Items (some v) []
  | sequence {v : Value} {vs : List Value} (h : v.untag = .sequence vs) : Items (some v) vs

/-- A sequence of values of one kind. -/
def ListOf (Kind : Value → α → Prop) (o : Option Value) (as : List α) : Prop :=
  ∃ vs, Items o vs ∧ List.Forall₂ Kind vs as

/-- A number of a panel: an integer of 64 bits, or a text that is the numeral of one but for white
space at its ends. -/
inductive IsNumber : Value → Int → Prop where
  | int {n : Int} (h : -0x8000000000000000 ≤ n ∧ n < 0x8000000000000000) : IsNumber (.int n) n
  | text {t : Text} {n : Int} (h : Text.IsNumeral (Text.trim t) n)
    (hr : -0x8000000000000000 ≤ n ∧ n < 0x8000000000000000) : IsNumber (.string t) n

/-- The entries of a record, by the texts of their keys. -/
inductive Entries : Value → List (Text × Value) → Prop where
  | null {v : Value} (h : v.untag = .null) : Entries v []
  | mapping {v : Value} {entries : List (Value × Value)} {named : List (Text × Value)}
    (h : v.untag = .mapping entries)
    (hkeys : List.Forall₂ (fun e m => IsText e.1 m.1 ∧ e.2 = m.2) entries named) :
    Entries v named

/-- The value is a record with entries that fit. -/
def Describes (Fits : List (Text × Value) → α → Prop) (v : Value) (a : α) : Prop :=
  ∃ named, Entries v named ∧ Fits named a

/-! ### Reading values of these kinds -/

theorem text_eq_ok_iff {v : Value} {t : Text} : Shape.text v = .ok t ↔ IsText v t := by
  unfold Shape.text IsText
  cases v.untag <;> simp

theorem fieldName_eq_ok_iff {v : Value} {t : Text} : Shape.fieldName v = .ok t ↔ IsText v t := by
  unfold Shape.fieldName IsText
  cases v.untag <;> simp

theorem optionalText_eq_ok_iff {v : Value} {t : Option Text} :
    Shape.optionalText v = .ok t ↔ OptionalText (some v) t := by
  constructor
  · intro h
    unfold Shape.optionalText at h
    split at h
    · cases h
      exact .null
    · cases ht : Shape.text v with
      | error e =>
        rw [ht] at h
        cases h
      | ok u =>
        rw [ht] at h
        cases h
        exact .text (text_eq_ok_iff.mp ht)
  · rintro (_ | _ | h)
    · rfl
    · unfold Shape.optionalText
      split
      · cases h
      · rw [text_eq_ok_iff.mpr h]
        rfl

theorem items_eq_ok_iff {v : Value} {vs : List Value} :
    Shape.items v = .ok vs ↔ Items (some v) vs := by
  constructor
  · intro h
    unfold Shape.items at h
    split at h <;> cases h
    · rename_i hv
      exact .sequence hv
    · rename_i hv
      exact .null hv
  · rintro (_ | h | h) <;> unfold Shape.items <;> rw [h]

theorem list_eq_ok_iff {read : Value → Except ShapeError α} {Kind : Value → α → Prop}
    (h : ∀ v a, read v = .ok a ↔ Kind v a) {v : Value} {as : List α} :
    Shape.list read v = .ok as ↔ ListOf Kind (some v) as := by
  have hread : (fun v a => read v = .ok a) = Kind := by
    funext v a
    exact propext (h v a)
  unfold Shape.list ListOf
  simp only [← items_eq_ok_iff, ← hread, ← mapM_eq_ok_iff]
  cases Shape.items v with
  | error e => simp [Except.bind]
  | ok vs => simp [Except.bind]

theorem inInt64_iff {n : Int} :
    Text.inInt64 n = true ↔ -0x8000000000000000 ≤ n ∧ n < 0x8000000000000000 := by
  rw [Text.inInt64, Bool.and_eq_true, decide_eq_true_iff, decide_eq_true_iff]
  omega

theorem readNumber_eq_ok_iff {v : Value} {n : Int} : readNumber v = .ok n ↔ IsNumber v n := by
  constructor
  · intro h
    unfold readNumber at h
    split at h
    · cases h
    · split at h
      · split at h <;> cases h
        rename_i hr
        exact .int (inInt64_iff.mp hr)
      · split at h <;> cases h
        rename_i hn
        obtain ⟨hn, hr⟩ := Option.filter_eq_some_iff.mp hn
        exact .text (Text.toInt?_eq_some_iff.mp hn) (inInt64_iff.mp hr)
      · cases h
  · rintro (hr | ⟨hn, hr⟩)
    · rw [readNumber, if_neg (by simp [Value.hasTag]), if_pos (inInt64_iff.mpr hr)]
    · have hfilter := Option.filter_eq_some_iff.mpr
        ⟨Text.toInt?_eq_some_iff.mpr hn, inInt64_iff.mpr hr⟩
      rw [readNumber, if_neg (by simp [Value.hasTag])]
      simp only [hfilter]

/-! ### Reading records -/

/-- A record is read from the values that describe it. -/
theorem record_eq_ok_iff {r : Record Value ShapeError σ} (hr : r.Orderless)
    {Fits : List (Text × Value) → σ → Prop}
    (hfits : ∀ named s, Fits named s ↔
      Record.Once (r.fields.map Field.names) named ∧ r.assemble named = some s)
    {name : Text} {v : Value} {s : σ} :
    Shape.record .yaml name r v = .ok s ↔ Describes Fits v s := by
  have hkeys : ∀ (entries : List (Value × Value)) named,
      Record.Keyed Shape.fieldName entries named ↔
        List.Forall₂ (fun e m => IsText e.1 m.1 ∧ e.2 = m.2) entries named := by
    intro entries named
    simp only [Record.Keyed, fieldName_eq_ok_iff]
  have hnamed : ∀ entries, r.readNamed .fields Shape.fieldName (fun _ => .ok ()) entries = .ok s ↔
      ∃ named, List.Forall₂ (fun e m => IsText e.1 m.1 ∧ e.2 = m.2) entries named ∧
        Fits named s := by
    intro entries
    simp only [Record.readNamed_eq_ok_iff hr (fun _ => rfl), hkeys, hfits]
  unfold Shape.record
  dsimp only
  constructor
  · intro h
    split at h
    · rename_i entries hv
      obtain ⟨named, hkeyed, hf⟩ := (hnamed entries).mp h
      exact ⟨named, .mapping hv hkeyed, hf⟩
    · rename_i hv _
      obtain ⟨named, hkeyed, hf⟩ := (hnamed []).mp h
      rw [List.forall₂_nil_left_iff.mp hkeyed] at hf
      exact ⟨[], .null hv, hf⟩
    · rename_i hn
      cases hn
    · cases h
  · rintro ⟨named, hv | ⟨hv, hkeyed⟩, hf⟩
    · rw [hv]
      exact (hnamed []).mpr ⟨[], .nil, hf⟩
    · rw [hv]
      exact (hnamed _).mpr ⟨named, hkeyed, hf⟩

/-! ### Reading fields -/

section Fields

variable {f : Field Value ShapeError σ} {read : Value → Except ShapeError α} {set : α → σ → σ}
  {steps : List (σ → Option σ)} {o : Option Value} {s s' : σ}

/-- A field that has to be given sets its part of the record. -/
theorem chain_required {Kind : Value → α → Prop} (hp : f.presence = .required)
    (hread : ∀ v s, f.read v s = (read v).map (set · s)) (hkind : ∀ v a, read v = .ok a ↔ Kind v a) :
    chain (f.take o :: steps) s = some s' ↔
      ∃ a, Given Kind o a ∧ chain steps (set a s) = some s' := by
  rw [chain_cons]
  cases o with
  | none => simp [Field.take, hp, Given]
  | some v =>
    rw [Field.take, hread]
    simp only [Given, Option.some_inj, exists_eq_left', ← hkind]
    cases read v <;> simp [Except.map, Except.toOption]

theorem chain_textField {name : Text} {otherNames : List Text} {set : Option Text → σ → σ}
    (hset : set none s = s) :
    chain ((Shape.textField name set otherNames).take o :: steps) s = some s' ↔
      ∃ t, OptionalText o t ∧ chain steps (set t s) = some s' :=
  chain_optional nofun (fun _ _ => rfl) (fun _ _ => optionalText_eq_ok_iff)
    (fun _ => ⟨by rintro ⟨⟩; rfl, by rintro rfl; exact .absent⟩) hset

theorem chain_textOrEmpty {set : Text → σ → σ} (hp : f.presence = .optional)
    (hread : ∀ v s, f.read v s = (Shape.text v).map (set · s)) (hset : set [] s = s) :
    chain (f.take o :: steps) s = some s' ↔
      ∃ t, TextOrEmpty o t ∧ chain steps (set t s) = some s' := by
  refine chain_optional (by simp [hp]) hread (fun v t => ?_)
    (fun _ => ⟨by rintro ⟨⟩; rfl, by rintro rfl; exact .absent⟩) hset
  rw [text_eq_ok_iff]
  exact ⟨.text, fun h => by cases h; assumption⟩

theorem chain_items {set : List Value → σ → σ} (hp : f.presence = .optional)
    (hread : ∀ v s, f.read v s = (Shape.items v).map (set · s)) (hset : set [] s = s) :
    chain (f.take o :: steps) s = some s' ↔ ∃ vs, Items o vs ∧ chain steps (set vs s) = some s' :=
  chain_optional (by simp [hp]) hread (fun _ _ => items_eq_ok_iff)
    (fun _ => ⟨by rintro ⟨⟩; rfl, by rintro rfl; exact .absent⟩) hset

theorem chain_list {set : List α → σ → σ} {Kind : Value → α → Prop} (hp : f.presence = .optional)
    (hread : ∀ v s, f.read v s = (Shape.list read v).map (set · s))
    (hkind : ∀ v a, read v = .ok a ↔ Kind v a) (hset : set [] s = s) :
    chain (f.take o :: steps) s = some s' ↔
      ∃ as, ListOf Kind o as ∧ chain steps (set as s) = some s' := by
  refine chain_optional (by simp [hp]) hread (fun _ _ => list_eq_ok_iff hkind) (fun as => ?_) hset
  constructor
  · rintro ⟨_, ⟨⟩, has⟩
    exact List.forall₂_nil_left_iff.mp has
  · rintro rfl
    exact ⟨[], .absent, .nil⟩

end Fields

end Schema

open Schema Yaml

variable {named : List (Text × Value)} {v : Value}

/-! ### Lines of speech -/

/-- What the entries say about a line of speech. -/
structure DialogueLine.Fits (named : List (Text × Value)) (l : DialogueLine) : Prop where
  once : Record.Once [["text"], ["char_text_position"], ["type"]] named
  text : TextOrEmpty (under ["text"] named) l.text
  textPosition : OptionalText (under ["char_text_position"] named) l.textPosition
  kind : OptionalText (under ["type"] named) l.kind

namespace DialogueLine

theorem orderless : record.Orderless where
  nodup := by decide +kernel
  commutes := by
    simp only [record, List.pairwise_cons, List.forall_mem_cons, List.not_mem_nil,
      false_implies, implies_true, and_true, List.Pairwise.nil]
    and_intros <;>
      exact Field.commutes_of_set (fun _ _ => rfl) (fun _ _ => rfl) fun _ _ _ => rfl

theorem fits_iff {l : DialogueLine} : Fits named l ↔
    Record.Once (record.fields.map Field.names) named ∧ record.assemble named = some l := by
  constructor
  · intro h
    refine ⟨h.once, ?_⟩
    refine (chain_textOrEmpty rfl (fun _ _ => rfl) rfl).mpr ⟨_, h.text, ?_⟩
    refine (chain_textField rfl).mpr ⟨_, h.textPosition, ?_⟩
    exact (chain_textField rfl).mpr ⟨_, h.kind, rfl⟩
  · rintro ⟨once, h⟩
    obtain ⟨_, text, h⟩ := (chain_textOrEmpty rfl (fun _ _ => rfl) rfl).mp h
    obtain ⟨_, textPosition, h⟩ := (chain_textField rfl).mp h
    obtain ⟨_, kind, h⟩ := (chain_textField rfl).mp h
    cases h
    exact { once, text, textPosition, kind }

theorem read_eq_ok_iff (v : Value) (l : DialogueLine) :
    Shape.record .yaml "DialogueLine" record v = .ok l ↔ Describes Fits v l :=
  record_eq_ok_iff orderless fun _ _ => fits_iff

end DialogueLine

/-! ### Appearances -/

/-- What the entries say about an appearance. -/
structure Appearance.Fits (named : List (Text × Value)) (a : Appearance) : Prop where
  once : Record.Once [["name"], ["panel_position"], ["emotion"], ["facing"], ["shot"], ["pose"],
    ["description"], ["lines"]] named
  name : Given IsText (under ["name"] named) a.name
  position : OptionalText (under ["panel_position"] named) a.position
  emotion : OptionalText (under ["emotion"] named) a.emotion
  facing : OptionalText (under ["facing"] named) a.facing
  shot : OptionalText (under ["shot"] named) a.shot
  pose : OptionalText (under ["pose"] named) a.pose
  description : OptionalText (under ["description"] named) a.description
  lines : ListOf (Describes DialogueLine.Fits) (under ["lines"] named) a.lines

namespace Appearance

theorem orderless : (record .yaml).Orderless where
  nodup := by decide +kernel
  commutes := by
    simp only [record, List.pairwise_cons, List.forall_mem_cons, List.not_mem_nil,
      false_implies, implies_true, and_true, List.Pairwise.nil]
    and_intros <;>
      exact Field.commutes_of_set (fun _ _ => rfl) (fun _ _ => rfl) fun _ _ _ => rfl

theorem fits_iff {a : Appearance} : Fits named a ↔
    Record.Once ((record .yaml).fields.map Field.names) named ∧
      (record .yaml).assemble named = some a := by
  constructor
  · intro h
    refine ⟨h.once, ?_⟩
    refine (chain_required rfl (fun _ _ => rfl) fun _ _ => text_eq_ok_iff).mpr ⟨_, h.name, ?_⟩
    refine (chain_textField rfl).mpr ⟨_, h.position, ?_⟩
    refine (chain_textField rfl).mpr ⟨_, h.emotion, ?_⟩
    refine (chain_textField rfl).mpr ⟨_, h.facing, ?_⟩
    refine (chain_textField rfl).mpr ⟨_, h.shot, ?_⟩
    refine (chain_textField rfl).mpr ⟨_, h.pose, ?_⟩
    refine (chain_textField rfl).mpr ⟨_, h.description, ?_⟩
    exact (chain_list rfl (fun _ _ => rfl) DialogueLine.read_eq_ok_iff rfl).mpr ⟨_, h.lines, rfl⟩
  · rintro ⟨once, h⟩
    obtain ⟨_, name, h⟩ := (chain_required rfl (fun _ _ => rfl) fun _ _ => text_eq_ok_iff).mp h
    obtain ⟨_, position, h⟩ := (chain_textField rfl).mp h
    obtain ⟨_, emotion, h⟩ := (chain_textField rfl).mp h
    obtain ⟨_, facing, h⟩ := (chain_textField rfl).mp h
    obtain ⟨_, shot, h⟩ := (chain_textField rfl).mp h
    obtain ⟨_, pose, h⟩ := (chain_textField rfl).mp h
    obtain ⟨_, description, h⟩ := (chain_textField rfl).mp h
    obtain ⟨_, lines, h⟩ :=
      (chain_list rfl (fun _ _ => rfl) DialogueLine.read_eq_ok_iff rfl).mp h
    cases h
    exact { once, name, position, emotion, facing, shot, pose, description, lines }

theorem read_eq_ok_iff (v : Value) (a : Appearance) :
    Shape.record .yaml "PanelCharacter" (record .yaml) v = .ok a ↔ Describes Fits v a :=
  record_eq_ok_iff orderless fun _ _ => fits_iff

end Appearance

/-! ### Recurring characters -/

/-- What the entries say about a recurring character. -/
structure CharacterDesign.Fits (named : List (Text × Value)) (c : CharacterDesign) : Prop where
  once : Record.Once [["name"], ["base_prompt"]] named
  name : Given IsText (under ["name"] named) c.name
  basePrompt : OptionalText (under ["base_prompt"] named) c.basePrompt

namespace CharacterDesign

theorem orderless : record.Orderless where
  nodup := by decide +kernel
  commutes := by
    simp only [record, List.pairwise_cons, List.forall_mem_cons, List.not_mem_nil,
      false_implies, implies_true, and_true, List.Pairwise.nil]
    exact Field.commutes_of_set (fun _ _ => rfl) (fun _ _ => rfl) fun _ _ _ => rfl

theorem fits_iff {c : CharacterDesign} : Fits named c ↔
    Record.Once (record.fields.map Field.names) named ∧ record.assemble named = some c := by
  constructor
  · intro h
    refine ⟨h.once, ?_⟩
    refine (chain_required rfl (fun _ _ => rfl) fun _ _ => text_eq_ok_iff).mpr ⟨_, h.name, ?_⟩
    exact (chain_textField rfl).mpr ⟨_, h.basePrompt, rfl⟩
  · rintro ⟨once, h⟩
    obtain ⟨_, name, h⟩ := (chain_required rfl (fun _ _ => rfl) fun _ _ => text_eq_ok_iff).mp h
    obtain ⟨_, basePrompt, h⟩ := (chain_textField rfl).mp h
    cases h
    exact { once, name, basePrompt }

theorem read_eq_ok_iff (v : Value) (c : CharacterDesign) :
    Shape.record .yaml "CharacterIdentity" record v = .ok c ↔ Describes Fits v c :=
  record_eq_ok_iff orderless fun _ _ => fits_iff

end CharacterDesign

/-! ### Panels -/

/-- What the entries say about a panel. -/
structure Panel.Fits (named : List (Text × Value)) (p : Panel) : Prop where
  once : Record.Once [["number"], ["page_position"], ["background"], ["description"],
    ["camera_angle"], ["effects"], ["monologues"], ["characters"]] named
  number : Given IsNumber (under ["number"] named) p.number
  pagePosition : OptionalText (under ["page_position"] named) p.pagePosition
  background : OptionalText (under ["background"] named) p.background
  description : OptionalText (under ["description"] named) p.description
  cameraAngle : OptionalText (under ["camera_angle"] named) p.cameraAngle
  effects : Items (under ["effects"] named) p.effects
  monologues : Items (under ["monologues"] named) p.monologues
  characters : ListOf (Describes Appearance.Fits) (under ["characters"] named) p.characters

namespace Panel

theorem orderless {n : Notation} : (record n).Orderless where
  nodup := by cases n <;> decide +kernel
  commutes := by
    simp only [record, List.pairwise_cons, List.forall_mem_cons, List.not_mem_nil,
      false_implies, implies_true, and_true, List.Pairwise.nil]
    and_intros <;>
      exact Field.commutes_of_set (fun _ _ => rfl) (fun _ _ => rfl) fun _ _ _ => rfl

theorem fits_iff {p : Panel} : Fits named p ↔
    Record.Once ((record .yaml).fields.map Field.names) named ∧
      (record .yaml).assemble named = some p := by
  constructor
  · intro h
    refine ⟨h.once, ?_⟩
    refine (chain_required rfl (fun _ _ => rfl) fun _ _ => readNumber_eq_ok_iff).mpr
      ⟨_, h.number, ?_⟩
    refine (chain_textField rfl).mpr ⟨_, h.pagePosition, ?_⟩
    refine (chain_textField rfl).mpr ⟨_, h.background, ?_⟩
    refine (chain_textField rfl).mpr ⟨_, h.description, ?_⟩
    refine (chain_textField rfl).mpr ⟨_, h.cameraAngle, ?_⟩
    refine (chain_items rfl (fun _ _ => rfl) rfl).mpr ⟨_, h.effects, ?_⟩
    refine (chain_items rfl (fun _ _ => rfl) rfl).mpr ⟨_, h.monologues, ?_⟩
    exact (chain_list rfl (fun _ _ => rfl) Appearance.read_eq_ok_iff rfl).mpr
      ⟨_, h.characters, rfl⟩
  · rintro ⟨once, h⟩
    obtain ⟨_, number, h⟩ :=
      (chain_required rfl (fun _ _ => rfl) fun _ _ => readNumber_eq_ok_iff).mp h
    obtain ⟨_, pagePosition, h⟩ := (chain_textField rfl).mp h
    obtain ⟨_, background, h⟩ := (chain_textField rfl).mp h
    obtain ⟨_, description, h⟩ := (chain_textField rfl).mp h
    obtain ⟨_, cameraAngle, h⟩ := (chain_textField rfl).mp h
    obtain ⟨_, effects, h⟩ := (chain_items rfl (fun _ _ => rfl) rfl).mp h
    obtain ⟨_, monologues, h⟩ := (chain_items rfl (fun _ _ => rfl) rfl).mp h
    obtain ⟨_, characters, h⟩ :=
      (chain_list rfl (fun _ _ => rfl) Appearance.read_eq_ok_iff rfl).mp h
    cases h
    exact { once, number, pagePosition, background, description, cameraAngle, effects,
            monologues, characters }

theorem read_eq_ok_iff (v : Value) (p : Panel) :
    Shape.record .yaml "Panel" (record .yaml) v = .ok p ↔ Describes Fits v p :=
  record_eq_ok_iff orderless fun _ _ => fits_iff

end Panel

/-! ### Pages -/

/-- What the entries say about a page. -/
structure Page.Fits (named : List (Text × Value)) (p : Page) : Prop where
  once : Record.Once [["language"], ["style"], ["color_mode"], ["aspect_ratio"],
    ["writing-mode", "writing_mode"], ["instructions"], ["layout_constraints"],
    ["character_infos"], ["panels"]] named
  language : OptionalText (under ["language"] named) p.language
  style : OptionalText (under ["style"] named) p.style
  colorMode : OptionalText (under ["color_mode"] named) p.colorMode
  aspectRatio : OptionalText (under ["aspect_ratio"] named) p.aspectRatio
  writingMode : OptionalText (under ["writing-mode", "writing_mode"] named) p.writingMode
  instructions : OptionalText (under ["instructions"] named) p.instructions
  layoutConstraints : OptionalText (under ["layout_constraints"] named) p.layoutConstraints
  characters : ListOf (Describes CharacterDesign.Fits) (under ["character_infos"] named) p.characters
  panels : ListOf (Describes Panel.Fits) (under ["panels"] named) p.panels

namespace Page

theorem orderless {n : Notation} : (record n).Orderless where
  nodup := by cases n <;> decide +kernel
  commutes := by
    simp only [record, List.pairwise_cons, List.forall_mem_cons, List.not_mem_nil,
      false_implies, implies_true, and_true, List.Pairwise.nil]
    and_intros <;>
      exact Field.commutes_of_set (fun _ _ => rfl) (fun _ _ => rfl) fun _ _ _ => rfl

theorem fits_iff {p : Page} : Fits named p ↔
    Record.Once ((record .yaml).fields.map Field.names) named ∧
      (record .yaml).assemble named = some p := by
  constructor
  · intro h
    refine ⟨h.once, ?_⟩
    refine (chain_textField rfl).mpr ⟨_, h.language, ?_⟩
    refine (chain_textField rfl).mpr ⟨_, h.style, ?_⟩
    refine (chain_textField rfl).mpr ⟨_, h.colorMode, ?_⟩
    refine (chain_textField rfl).mpr ⟨_, h.aspectRatio, ?_⟩
    refine (chain_textField rfl).mpr ⟨_, h.writingMode, ?_⟩
    refine (chain_textField rfl).mpr ⟨_, h.instructions, ?_⟩
    refine (chain_textField rfl).mpr ⟨_, h.layoutConstraints, ?_⟩
    refine (chain_list rfl (fun _ _ => rfl) CharacterDesign.read_eq_ok_iff rfl).mpr
      ⟨_, h.characters, ?_⟩
    exact (chain_list rfl (fun _ _ => rfl) Panel.read_eq_ok_iff rfl).mpr ⟨_, h.panels, rfl⟩
  · rintro ⟨once, h⟩
    obtain ⟨_, language, h⟩ := (chain_textField rfl).mp h
    obtain ⟨_, style, h⟩ := (chain_textField rfl).mp h
    obtain ⟨_, colorMode, h⟩ := (chain_textField rfl).mp h
    obtain ⟨_, aspectRatio, h⟩ := (chain_textField rfl).mp h
    obtain ⟨_, writingMode, h⟩ := (chain_textField rfl).mp h
    obtain ⟨_, instructions, h⟩ := (chain_textField rfl).mp h
    obtain ⟨_, layoutConstraints, h⟩ := (chain_textField rfl).mp h
    obtain ⟨_, characters, h⟩ :=
      (chain_list rfl (fun _ _ => rfl) CharacterDesign.read_eq_ok_iff rfl).mp h
    obtain ⟨_, panels, h⟩ :=
      (chain_list rfl (fun _ _ => rfl) Panel.read_eq_ok_iff rfl).mp h
    cases h
    exact { once, language, style, colorMode, aspectRatio, writingMode, instructions,
            layoutConstraints, characters, panels }

/-- **Reading a page is its schema.** A value is read as a page iff it describes that page. -/
theorem ofValue_eq_ok_iff {p : Page} : Page.ofValue .yaml v = .ok p ↔ Describes Fits v p :=
  record_eq_ok_iff orderless fun _ _ => fits_iff

end Page

end MangaPress
