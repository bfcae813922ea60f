/-
# Editing what is read as a record

One value is another one but for what stands at one place: an entry of a mapping is given another
value or left out (`Schema.Replaces`), or what stands under a key, or as an item there, is edited
itself (`Schema.Within`, `Schema.AtItem`).

The edits of a value are interchangeable for a reader if each of them can be read once the value can,
and all that is read from them looks alike. Where edits are interchangeable for the reader of an item,
they are for the reader of the record that holds the list, as long as a record looks alike when its
items do (`Schema.Interchangeable.within`); and a reader that refuses the edits of an item refuses
them there (`Schema.Refuses.within`).

In JSON a list may give the fields by position. In either notation an edit of what is given for one
field (`Schema.InField`) changes no more than what that field makes of it (`Schema.record_inField`).

Key definitions: `Schema.Replaces`, `Schema.Within`, `Schema.AtItem`, `Schema.InField`,
`Schema.Respells`, `Schema.Interchangeable`, `Schema.Refuses`.
Key theorems: `Schema.record_replaces`, `Schema.interchangeable_of_blank`,
`Schema.Interchangeable.within`, `Schema.Refuses.within`, `Schema.record_inField`.
-/
import MangaPress.Proofs.Page.Schema
import MangaPress.Proofs.Record.Replace

namespace MangaPress.Schema

open Yaml (Value)

variable {α β γ σ : Type}

/-! ### Edits -/

/-- The text that a key is; empty if it is none. -/
def keyText (key : Value) : Text :=
  match key.untag with
  | .string t => t
  | _ => []

/-- Whether the key is one of the names. -/
def isUnder (names : List Text) (key : Value) : Bool :=
  match key.untag with
  | .string t => names.contains t
  | _ => false

/-- The value is a mapping with the entries, or null, which stands for one without any. -/
inductive HasEntries : Value → List (Value × Value) → Prop where
  | null {v : Value} (h : v.untag = .null) : HasEntries v []
  | mapping {v : Value} {entries : List (Value × Value)} (h : v.untag = .mapping entries) :
    HasEntries v entries

/-- `w` is `v` but for the entry under the names: its value there is `o`, or it has none. -/
def Replaces (names : List Text) (o : Option Value) (v w : Value) : Prop :=
  ∃ entries entries', HasEntries v entries ∧ HasEntries w entries' ∧
    (entries'.filter fun e => !isUnder names e.1) = (entries.filter fun e => !isUnder names e.1) ∧
    (entries'.filter fun e => isUnder names e.1).map Prod.snd = o.toList

/-- `w` is `v` with an entry under the names that has one of the values, or with none if that is
among them. -/
def Respells (names : List Text) (given : List (Option Value)) (v w : Value) : Prop :=
  ∃ o ∈ given, Replaces names o v w

/-- `w` is `v` with an edit of what stands under one of the names. -/
def Within (names : List Text) (R : Value → Value → Prop) (v w : Value) : Prop :=
  ∃ before key x y after, v.untag = .mapping (before ++ (key, x) :: after) ∧
    w.untag = .mapping (before ++ (key, y) :: after) ∧ isUnder names key = true ∧ R x y

/-- `y` is the sequence `x` with an edit of one item. -/
def AtItem (i : Nat) (R : Value → Value → Prop) (x y : Value) : Prop :=
  ∃ items a b, x.untag = .sequence items ∧ items[i]? = some a ∧
    y.untag = .sequence (items.set i b) ∧ R a b

/-- `w` is `v` with an edit of what is given for the field with the names, under one of them or, in a
list of JSON, at the position of the field. -/
inductive InField : Notation → List Text → Nat → (Value → Value → Prop) → Value → Value → Prop where
  | named {n : Notation} {names : List Text} {position : Nat} {R : Value → Value → Prop}
    {v w : Value} (h : Within names R v w) : InField n names position R v w
  | listed {names : List Text} {R : Value → Value → Prop} {v w x y : Value}
    {before after : List Value} (hv : v.untag = .sequence (before ++ x :: after))
    (hw : w.untag = .sequence (before ++ y :: after)) (h : R x y) :
    InField .json names before.length R v w

/-- Once a value can be read, all its edits can, and they look alike. -/
def Interchangeable (read : Value → Except ShapeError σ) (view : σ → γ)
    (R : Value → Value → Prop) : Prop :=
  ∀ ⦃v s w w'⦄, read v = .ok s → R v w → R v w' →
    ∃ t t', read w = .ok t ∧ read w' = .ok t' ∧ view t = view t'

/-- No edit of a value that can be read can be read. -/
def Refuses (read : Value → Except ShapeError σ) (R : Value → Value → Prop) : Prop :=
  ∀ ⦃v s w⦄, read v = .ok s → R v w → ∀ t, read w ≠ .ok t

/-! ### Entries -/

theorem isUnder_eq_contains {names : List Text} {key : Value} (h : IsText key (keyText key)) :
    isUnder names key = names.contains (keyText key) := by
  unfold isUnder
  rw [show key.untag = .string (keyText key) from h]

theorem isText_of_isUnder {names : List Text} {key : Value} (h : isUnder names key = true) :
    IsText key (keyText key) := by
  unfold isUnder at h
  unfold IsText keyText
  split at h
  · rename_i t ht
    rw [ht]
  · cases h

theorem entries_iff {v : Value} {entries : List (Value × Value)} (h : HasEntries v entries)
    {named : List (Text × Value)} :
    Entries v named ↔ (∀ e ∈ entries, IsText e.1 (keyText e.1)) ∧
      named = entries.map fun e => (keyText e.1, e.2) := by
  have hkeys : ∀ (entries : List (Value × Value)) named,
      List.Forall₂ (fun e m => IsText e.1 m.1 ∧ e.2 = m.2) entries named ↔
        (∀ e ∈ entries, IsText e.1 (keyText e.1)) ∧
          named = entries.map fun e => (keyText e.1, e.2) := by
    intro entries
    induction entries with
    | nil => simp
    | cons e entries ih =>
      intro named
      rw [List.forall₂_cons_left_iff, List.forall_mem_cons, List.map_cons]
      constructor
      · rintro ⟨⟨t, x⟩, rest, ⟨ht, hx⟩, hrest, rfl⟩
        obtain ⟨htexts, rfl⟩ := (ih rest).mp hrest
        have hkey : keyText e.1 = t := by
          unfold keyText
          rw [show e.1.untag = .string t from ht]
        refine ⟨⟨hkey ▸ ht, htexts⟩, ?_⟩
        rw [hkey, ← show e.2 = x from hx]
      · rintro ⟨⟨ht, htexts⟩, rfl⟩
        exact ⟨_, _, ⟨ht, rfl⟩, (ih _).mpr ⟨htexts, rfl⟩, rfl⟩
  rw [← hkeys]
  constructor
  · rintro (hv | ⟨hv, hforall⟩)
    · obtain hnull | hmapping := h
      · exact .nil
      · rw [hmapping] at hv
        cases hv
    · obtain hnull | hmapping := h
      · rw [hnull] at hv
        cases hv
      · rw [hmapping] at hv
        cases hv
        exact hforall
  · intro hforall
    obtain hnull | hmapping := h
    · rw [List.forall₂_nil_left_iff.mp hforall]
      exact .null hnull
    · exact .mapping hmapping hforall

theorem Entries.hasEntries {v : Value} {named : List (Text × Value)} (h : Entries v named) :
    ∃ entries, HasEntries v entries := by
  obtain hv | ⟨hv, -⟩ := h
  · exact ⟨[], .null hv⟩
  · exact ⟨_, .mapping hv⟩

theorem Entries.unique {v : Value} {named named' : List (Text × Value)} (h : Entries v named)
    (h' : Entries v named') : named = named' := by
  obtain ⟨entries, hentries⟩ := h.hasEntries
  exact ((entries_iff hentries).mp h).2.trans ((entries_iff hentries).mp h').2.symm

theorem HasEntries.unique {v : Value} {entries entries' : List (Value × Value)}
    (h : HasEntries v entries) (h' : HasEntries v entries') : entries = entries' := by
  cases h with
  | null hv =>
    cases h' with
    | null _ => rfl
    | mapping hv' => cases hv.symm.trans hv'
  | mapping hv =>
    cases h' with
    | null hv' => cases hv.symm.trans hv'
    | mapping hv' => exact Value.mapping.inj (hv.symm.trans hv')

theorem filter_named {names : List Text} {entries : List (Value × Value)}
    (h : ∀ e ∈ entries, IsText e.1 (keyText e.1)) :
    ((entries.map fun e => (keyText e.1, e.2)).filter fun m => names.contains m.1) =
      (entries.filter fun e => isUnder names e.1).map fun e => (keyText e.1, e.2) := by
  rw [List.filter_map]
  exact congrArg _ (List.filter_congr fun e he => (isUnder_eq_contains (h e he)).symm)

/-- What replaces the entry under the names in the value replaces it among its named entries. -/
theorem replaced_of_replaces {names : List Text} {o : Option Value} {v w : Value}
    {named : List (Text × Value)} (h : Replaces names o v w) (hv : Entries v named) :
    ∃ named', Entries w named' ∧ Record.Replaced names o named named' := by
  obtain ⟨entries, entries', hentries, hentries', hothers, hvalue⟩ := h
  obtain ⟨htexts, rfl⟩ := (entries_iff hentries).mp hv
  have htexts' : ∀ e ∈ entries', IsText e.1 (keyText e.1) := by
    intro e he
    by_cases hunder : isUnder names e.1 = true
    · exact isText_of_isUnder hunder
    · have hmem : e ∈ entries'.filter fun e => !isUnder names e.1 :=
        List.mem_filter.mpr ⟨he, by simpa using hunder⟩
      rw [hothers] at hmem
      exact htexts e (List.mem_filter.mp hmem).1
  have hfilter : ∀ l : List (Value × Value), (∀ e ∈ l, IsText e.1 (keyText e.1)) →
      ((l.map fun e => (keyText e.1, e.2)).filter fun m => !names.contains m.1) =
        (l.filter fun e => !isUnder names e.1).map fun e => (keyText e.1, e.2) := by
    intro l hl
    rw [List.filter_map]
    exact congrArg _ (List.filter_congr fun e he => congrArg _ (isUnder_eq_contains (hl e he)).symm)
  refine ⟨_, (entries_iff hentries').mpr ⟨htexts', rfl⟩, ?_, ?_⟩
  · rw [hfilter _ htexts', hfilter _ htexts, hothers]
  · rw [filter_named htexts', List.map_map, ← hvalue]
    rfl

/-- What stands under the names is one value. -/
theorem Replaces.unique {names : List Text} {x y : Value} {v : Value}
    (hx : Replaces names (some x) v v) (hy : Replaces names (some y) v v) : x = y := by
  obtain ⟨-, entries, -, hentries, -, hvalue⟩ := hx
  obtain ⟨-, entries', -, hentries', -, hvalue'⟩ := hy
  rw [hentries.unique hentries', hvalue'] at hvalue
  exact (List.singleton_inj.mp hvalue).symm

/-! ### Records -/

section Fields

variable {r : Record Value ShapeError σ} {f : Field Value ShapeError σ} {name : Text} {v w : Value}
  {s : σ}

theorem record_eq_ok_iff_assemble (hr : r.Orderless) (v : Value) (s : σ) :
    Shape.record .yaml name r v = .ok s ↔
      Describes (fun named s => Record.Once (r.fields.map Field.names) named ∧
        r.assemble named = some s) v s :=
  record_eq_ok_iff hr fun _ _ => Iff.rfl

/-- The edits of one entry are read as what its field makes of them, after all other fields. -/
theorem record_replaces (hr : r.Orderless) (hf : f ∈ r.fields)
    (h : Shape.record .yaml name r v = .ok s) :
    ∃ rest, (∀ o w, Replaces f.names o v w → ∀ s',
        Shape.record .yaml name r w = .ok s' ↔ f.take o rest = some s') ∧
      ∀ x, f.read x r.blank = .ok r.blank → f.read x rest = .ok rest := by
  obtain ⟨named, hnamed, honce, hassemble⟩ := (record_eq_ok_iff_assemble hr v s).mp h
  obtain ⟨rest, hreplaced, hblank⟩ := Record.assemble_replaced hr hf honce hassemble
  refine ⟨rest, fun o w hw s' => ?_, hblank⟩
  obtain ⟨named', hnamed', hedit⟩ := replaced_of_replaces hw hnamed
  obtain ⟨honce', hassemble'⟩ := hreplaced o named' hedit
  rw [record_eq_ok_iff_assemble hr, ← hassemble']
  constructor
  · rintro ⟨other, hother, -, hs'⟩
    rwa [hnamed'.unique hother]
  · exact fun hs' => ⟨named', hnamed', honce', hs'⟩

/-- An edit of what stands under the names of a field gives it another value. -/
theorem replaces_of_within (hr : r.Orderless) (hf : f ∈ r.fields)
    (h : Shape.record .yaml name r v = .ok s) {R : Value → Value → Prop}
    (hw : Within f.names R v w) :
    ∃ x y, Replaces f.names (some x) v v ∧ Replaces f.names (some y) v w ∧ R x y := by
  obtain ⟨before, key, x, y, after, hv, hw, hkey, hR⟩ := hw
  obtain ⟨named, hnamed, honce, -⟩ := (record_eq_ok_iff_assemble hr v s).mp h
  obtain ⟨htexts, rfl⟩ := (entries_iff (.mapping hv)).mp hnamed
  have hcons : ∀ z, ((key, z) :: after).filter (fun e => isUnder f.names e.1) =
      (key, z) :: after.filter fun e => isUnder f.names e.1 :=
    fun z => List.filter_cons_of_pos hkey
  -- No field is given twice, so there is no other entry under the names.
  have hnone : before.filter (fun e => isUnder f.names e.1) = [] ∧
      after.filter (fun e => isUnder f.names e.1) = [] := by
    have hmem : (key, x) ∈ before ++ (key, x) :: after := by simp
    have hname : keyText key ∈ f.names := by
      rw [isUnder_eq_contains (htexts _ hmem)] at hkey
      exact List.contains_iff_mem.mp hkey
    have hone := honce.filter_eq (List.mem_map_of_mem hf) (List.mem_map_of_mem hmem) hname
    rw [filter_named htexts, List.filter_append, hcons] at hone
    have hlength := congrArg List.length hone
    simp only [List.length_map, List.length_append, List.length_cons, List.length_nil] at hlength
    exact ⟨List.length_eq_zero_iff.mp (by omega), List.length_eq_zero_iff.mp (by omega)⟩
  have hvalue : ∀ z, (before ++ (key, z) :: after).filter (fun e => isUnder f.names e.1) =
      [(key, z)] := by
    intro z
    rw [List.filter_append, hcons, hnone.1, hnone.2, List.nil_append]
  have hothers : ∀ z, (before ++ (key, z) :: after).filter (fun e => !isUnder f.names e.1) =
      before.filter (fun e => !isUnder f.names e.1) ++
        after.filter fun e => !isUnder f.names e.1 := by
    intro z
    have hdrop : ((key, z) :: after).filter (fun e => !isUnder f.names e.1) =
        after.filter fun e => !isUnder f.names e.1 :=
      List.filter_cons_of_neg (by simp [hkey])
    rw [List.filter_append, hdrop]
  refine ⟨x, y, ⟨_, _, .mapping hv, .mapping hv, rfl, ?_⟩,
    ⟨_, _, .mapping hv, .mapping hw, ?_, ?_⟩, hR⟩
  · rw [hvalue x]
    rfl
  · rw [hothers x, hothers y]
  · rw [hvalue y]
    rfl

/-- Mappings are read by the same rules in both notations. -/
theorem record_of_mapping {n : Notation} {entries : List (Value × Value)}
    (h : v.untag = .mapping entries) : Shape.record n name r v = Shape.record .yaml name r v := by
  unfold Shape.record
  rw [h]

/-- **One field of a record can be read last**, in either notation: an edit of what is given for it is
read as what the field makes of that, after all other fields. -/
theorem record_inField {n : Notation} {position : Nat} (hr : r.Orderless)
    (hf : r.fields[position]? = some f) (h : Shape.record n name r v = .ok s)
    {R : Value → Value → Prop} (hw : InField n f.names position R v w) :
    ∃ x y rest, R x y ∧ f.take (some x) rest = some s ∧
      ∀ s', Shape.record n name r w = .ok s' ↔ f.take (some y) rest = some s' := by
  cases hw with
  | named hw =>
    have hmappings := hw
    obtain ⟨_, _, _, _, _, hv', hw', -⟩ := hmappings
    rw [record_of_mapping hv'] at h
    obtain ⟨x, y, hx, hy, hR⟩ := replaces_of_within hr (List.mem_of_getElem? hf) h hw
    obtain ⟨rest, hedits, -⟩ := record_replaces hr (List.mem_of_getElem? hf) h
    refine ⟨x, y, rest, hR, (hedits _ v hx s).mp h, fun s' => ?_⟩
    rw [record_of_mapping hw']
    exact hedits _ w hy s'
  | @listed _ _ _ _ x y before after hv' hw' hR =>
    have hread : ∀ z : Value, ∀ items, z.untag = .sequence items →
        Shape.record .json name r z = r.readListed .fields items := by
      intro z items hz
      unfold Shape.record
      rw [hz]
    rw [hread v _ hv'] at h
    obtain ⟨rest, hedits⟩ := Record.readListed_replaced hr hf h
    refine ⟨x, y, rest, hR, (hedits x s).mp h, fun s' => ?_⟩
    rw [hread w _ hw']
    exact hedits y s'

/-- **Values of which a field makes nothing are interchangeable**, with one another and with none. -/
theorem interchangeable_of_blank (hr : r.Orderless) (hf : f ∈ r.fields)
    (hp : f.presence ≠ .required) (view : σ → γ) {given : List (Option Value)}
    (hblank : ∀ x, some x ∈ given → f.read x r.blank = .ok r.blank) :
    Interchangeable (Shape.record .yaml name r) view (Respells f.names given) := by
  rintro v s w w' h ⟨o, ho, hw⟩ ⟨o', ho', hw'⟩
  obtain ⟨rest, hedits, hkeeps⟩ := record_replaces hr hf h
  have htake : ∀ o ∈ given, f.take o rest = some rest := by
    intro o ho
    cases o with
    | none => exact if_neg hp
    | some x =>
      rw [Field.take, hkeeps x (hblank x ho)]
      rfl
  exact ⟨rest, rest, (hedits o w hw rest).mpr (htake o ho), (hedits o' w' hw' rest).mpr (htake o' ho'),
    rfl⟩

/-- The spellings of an absent text are interchangeable if none and the empty text look alike. -/
theorem interchangeable_of_text (hr : r.Orderless) {fieldName : Text} {otherNames : List Text}
    {set : Option Text → σ → σ} (hf : Shape.textField fieldName set otherNames ∈ r.fields)
    (hblank : set none r.blank = r.blank) {view : σ → γ}
    (hview : ∀ s, view (set (some []) s) = view (set none s)) :
    Interchangeable (Shape.record .yaml name r) view
      (Respells (fieldName :: otherNames) [none, some .null, some (.string [])]) := by
  intro v s w w' h hw hw'
  obtain ⟨rest, hedits, hkeeps⟩ := record_replaces hr hf h
  have hrest : set none rest = rest :=
    Except.ok.inj (hkeeps .null (congrArg Except.ok hblank))
  have hread : ∀ w, Respells (fieldName :: otherNames) [none, some .null, some (.string [])] v w →
      ∃ t, Shape.record .yaml name r w = .ok t ∧ view t = view rest := by
    rintro w ⟨o, ho, hw⟩
    have hedit := hedits o w hw
    simp only [List.mem_cons, List.not_mem_nil, or_false] at ho
    rcases ho with rfl | rfl | rfl
    · exact ⟨rest, (hedit _).mpr rfl, rfl⟩
    · exact ⟨set none rest, (hedit _).mpr rfl, by rw [hrest]⟩
    · exact ⟨set (some []) rest, (hedit _).mpr rfl, by rw [hview, hrest]⟩
  obtain ⟨t, ht, hsame⟩ := hread w hw
  obtain ⟨t', ht', hsame'⟩ := hread w' hw'
  exact ⟨t, t', ht, ht', hsame.trans hsame'.symm⟩

/-- What a field makes of a value that is given for it. -/
theorem take_eq_some_iff {read : Value → Except ShapeError α} {set : α → σ → σ}
    (hread : ∀ v s, f.read v s = (read v).map (set · s)) {x : Value} {s s' : σ} :
    f.take (some x) s = some s' ↔ ∃ a, read x = .ok a ∧ set a s = s' := by
  rw [Field.take, hread]
  cases read x <;> simp [Except.map, Except.toOption]

end Fields

/-! ### Items -/

section Items

variable {r : Record Value ShapeError σ} {f : Field Value ShapeError σ} {name : Text}
  {read : Value → Except ShapeError α} {set : List α → σ → σ} {R : Value → Value → Prop}

theorem list_eq_ok_iff_forall₂ {x : Value} {items : List Value} {as : List α}
    (hx : x.untag = .sequence items) :
    Shape.list read x = .ok as ↔ List.Forall₂ (fun v a => read v = .ok a) items as := by
  rw [← mapM_eq_ok_iff]
  unfold Shape.list Shape.items
  rw [hx]
  rfl

theorem forall₂_getElem? {P : Value → α → Prop} {items : List Value} {as : List α}
    (h : List.Forall₂ P items as) {i : Nat} {v : Value} (hv : items[i]? = some v) :
    ∃ a, as[i]? = some a ∧ P v a := by
  induction h generalizing i with
  | nil => cases hv
  | cons hP _ ih =>
    cases i with
    | zero =>
      cases hv
      exact ⟨_, rfl, hP⟩
    | succ i => exact ih hv

theorem forall₂_set {P : Value → α → Prop} {items : List Value} {as : List α}
    (h : List.Forall₂ P items as) {v : Value} {a : α} (hP : P v a) (i : Nat) :
    List.Forall₂ P (items.set i v) (as.set i a) := by
  induction h generalizing i with
  | nil => exact .nil
  | cons hhead htail ih =>
    cases i with
    | zero => exact .cons hP htail
    | succ i => exact .cons hhead (ih i)

/-- The items with another one in one place are read as the list with what that one is read as. -/
theorem forall₂_set_iff {items : List Value} {as as' : List α}
    (h : List.Forall₂ (fun v a => read v = .ok a) items as) {i : Nat} (hi : i < items.length)
    {v : Value} : List.Forall₂ (fun v a => read v = .ok a) (items.set i v) as' ↔
      ∃ a, read v = .ok a ∧ as' = as.set i a := by
  constructor
  · intro h'
    obtain ⟨a, -, ha⟩ := forall₂_getElem? h' (List.getElem?_set_self hi)
    refine ⟨a, ha, ?_⟩
    have hset := mapM_eq_ok_iff.mpr (forall₂_set h ha i)
    rw [mapM_eq_ok_iff.mpr h'] at hset
    exact Except.ok.inj hset
  · rintro ⟨a, ha, rfl⟩
    exact forall₂_set h ha i

/-- What is given for a field that is a list is the list of the items. -/
theorem take_list_eq_some_iff (hread : ∀ v s, f.read v s = (Shape.list read v).map (set · s))
    {x : Value} {items : List Value} (hx : x.untag = .sequence items) {s s' : σ} :
    f.take (some x) s = some s' ↔
      ∃ as, List.Forall₂ (fun v a => read v = .ok a) items as ∧ set as s = s' := by
  simp only [take_eq_some_iff hread, list_eq_ok_iff_forall₂ hx]

/-- Edits of an item that are interchangeable for its reader are so for the reader of the record. -/
theorem Interchangeable.within {viewItem : α → β} {view : σ → γ}
    (h : Interchangeable read viewItem R) (hr : r.Orderless) (hf : f ∈ r.fields)
    (hread : ∀ v s, f.read v s = (Shape.list read v).map (set · s))
    (hview : ∀ as as' s, as.map viewItem = as'.map viewItem → view (set as s) = view (set as' s))
    (i : Nat) :
    Interchangeable (Shape.record .yaml name r) view (Within f.names (AtItem i R)) := by
  intro v s w w' hs hw hw'
  obtain ⟨x, y, hx, hy, items, a, b, hitems, ha, hb, hab⟩ := replaces_of_within hr hf hs hw
  obtain ⟨x', y', hx', hy', items', a', b', hitems', ha', hb', hab'⟩ := replaces_of_within hr hf hs hw'
  obtain rfl := hx.unique hx'
  obtain rfl := Value.sequence.inj (hitems.symm.trans hitems')
  obtain rfl := Option.some.inj (ha.symm.trans ha')
  obtain ⟨rest, hedits, -⟩ := record_replaces hr hf hs
  obtain ⟨as, has, -⟩ := (take_list_eq_some_iff hread hitems).mp ((hedits _ v hx s).mp hs)
  obtain ⟨c, -, hc⟩ := forall₂_getElem? has ha
  obtain ⟨t, t', ht, ht', hsame⟩ := h hc hab hab'
  refine ⟨_, _, (hedits _ w hy _).mpr ((take_list_eq_some_iff hread hb).mpr
      ⟨_, forall₂_set has ht i, rfl⟩), (hedits _ w' hy' _).mpr ((take_list_eq_some_iff hread hb').mpr
      ⟨_, forall₂_set has ht' i, rfl⟩), hview _ _ _ ?_⟩
  rw [List.map_set, List.map_set, hsame]

/-- Edits of an item that its reader refuses are refused by the reader of the record. -/
theorem Refuses.within (h : Refuses read R) (hr : r.Orderless) (hf : f ∈ r.fields)
    (hread : ∀ v s, f.read v s = (Shape.list read v).map (set · s)) (i : Nat) :
    Refuses (Shape.record .yaml name r) (Within f.names (AtItem i R)) := by
  intro v s w hs hw s' hs'
  obtain ⟨x, y, hx, hy, items, a, b, hitems, ha, hb, hab⟩ := replaces_of_within hr hf hs hw
  obtain ⟨rest, hedits, -⟩ := record_replaces hr hf hs
  obtain ⟨as, has, -⟩ := (take_list_eq_some_iff hread hitems).mp ((hedits _ v hx s).mp hs)
  obtain ⟨as', has', -⟩ := (take_list_eq_some_iff hread hb).mp ((hedits _ w hy s').mp hs')
  obtain ⟨c, -, hc⟩ := forall₂_getElem? has ha
  have hi : i < items.length := (List.getElem?_eq_some_iff.mp ha).1
  obtain ⟨c', -, hc'⟩ := forall₂_getElem? has' (List.getElem?_set_self hi)
  exact h hc hab c' hc'

end Items

end MangaPress.Schema
