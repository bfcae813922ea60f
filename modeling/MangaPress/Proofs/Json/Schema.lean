/-
# Which values are records

What a JSON value must be to be read as a record, said without regard to the order of its members. An
object gives the fields their values by name: no field is given twice, and what stands under other
names only has to be JSON. An array gives them by position. Either must be read to its end (`Gives`).
A record is read from a value iff each field can be read from what is given for it
(`record_eq_ok_iff`). A source is read as what its value is, if nothing follows the value
(`Says`).

Key definitions: `Gives`, `IsText`, `OrNull`, `ListOf`, `Says`.
Key theorems: `record_eq_ok_iff`, `optional_eq_ok_iff`, `list_eq_ok_iff`, `decode_eq_ok_iff`.
-/
import MangaPress.Proofs.Json.Agree

namespace MangaPress.Json

variable {α σ : Type}

/-! ### Kinds of values -/

/-- What a value gives for fields with these names, in their order; from an array at least the first
`least` of them must get something. -/
inductive Gives (fields : List (List Text)) (least : Nat) : Reading → List (Option Reading) → Prop where
  | object {named : List (Text × Reading)} (once : Record.Once fields named)
    (others : ∀ m ∈ named, (∀ names ∈ fields, m.1 ∉ names) → m.2.wellFormed = true) :
    Gives fields least (.object (named.map fun m => (some m.1, m.2)) true)
      (fields.map fun names => under names named)
  | array {items : List Reading} {missing : Nat} (enough : least ≤ items.length)
    (length : items.length + missing = fields.length) :
    Gives fields least (.array items true) (items.map some ++ List.replicate missing none)

/-- The value is the text. -/
def IsText (x : Reading) (t : Text) : Prop :=
  x = .string (some t)

/-- A value of a kind that may be missing, and null. -/
inductive OrNull (Kind : Reading → α → Prop) : Option Reading → Option α → Prop where
  | absent : OrNull Kind none none
  | null : OrNull Kind (some .null) none
  | value {x : Reading} {a : α} (h : Kind x a) : OrNull Kind (some x) (some a)

/-- An array of values of a kind. -/
def ListOf (Kind : Reading → α → Prop) (x : Reading) (as : List α) : Prop :=
  ∃ items, x = .array items true ∧ List.Forall₂ Kind items as

/-- The source is one value of a kind. -/
def Says (Kind : Reading → α → Prop) (d : Document) (a : α) : Prop :=
  d.complete = true ∧ Kind d.value a

theorem Gives.length {fields : List (List Text)} {least : Nat} {x : Reading}
    {given : List (Option Reading)} (h : Gives fields least x given) :
    given.length = fields.length := by
  cases h with
  | object => exact List.length_map _
  | array _ length => rw [List.length_append, List.length_map, List.length_replicate, length]

theorem not_gives_null {fields : List (List Text)} {least : Nat} {given : List (Option Reading)} :
    ¬ Gives fields least .null given := by
  intro h
  cases h

theorem not_isText_null (t : Text) : ¬ IsText .null t := by
  intro h
  cases h

theorem not_listOf_null {Kind : Reading → α → Prop} (as : List α) : ¬ ListOf Kind .null as := by
  rintro ⟨_, h, -⟩
  cases h

/-! ### Reading values of these kinds -/

theorem text_eq_ok_iff (x : Reading) (t : Text) : Decoder.text x = .ok t ↔ IsText x t := by
  unfold Decoder.text IsText
  split <;> simp_all

/-- Null is read as nothing, so it must not be a value of the kind. -/
theorem optional_eq_ok_iff {decode : Decoder α} {Kind : Reading → α → Prop}
    (h : ∀ x a, decode x = .ok a ↔ Kind x a) (hnull : ∀ a, ¬ Kind .null a) {x : Reading}
    {o : Option α} : Decoder.optional decode x = .ok o ↔ OrNull Kind (some x) o := by
  by_cases hx : x = .null
  · subst hx
    constructor
    · rintro ⟨⟩
      exact .null
    · intro ho
      cases ho with
      | null => rfl
      | value hx => exact absurd hx (hnull _)
  · rw [optional_of_ne_null decode hx]
    constructor
    · intro ho
      cases hd : decode x with
      | error e => simp [hd, Except.map] at ho
      | ok a =>
        obtain rfl : some a = o := by simpa [hd, Except.map] using ho
        exact .value ((h x a).mp hd)
    · intro ho
      cases ho with
      | null => exact absurd rfl hx
      | value ha =>
        rw [(h x _).mpr ha]
        rfl

theorem list_eq_ok_iff {decode : Decoder α} {Kind : Reading → α → Prop}
    (h : ∀ x a, decode x = .ok a ↔ Kind x a) (x : Reading) (as : List α) :
    Decoder.list decode x = .ok as ↔ ListOf Kind x as := by
  have hread : (fun x a => decode x = .ok a) = Kind := by
    funext x a
    exact propext (h x a)
  cases x with
  | array items closed =>
    have hitems : items.mapM decode = .ok as ↔ List.Forall₂ Kind items as := by
      rw [← hread]
      exact mapM_eq_ok_iff
    have hlist : ListOf Kind (.array items closed) as ↔ closed = true ∧ items.mapM decode = .ok as := by
      rw [hitems]
      simp [ListOf]
    rw [hlist, Decoder.list]
    cases items.mapM decode <;> cases closed <;> simp [bind, Except.bind]
  | _ => simp [Decoder.list, ListOf]

/-- A source is read iff it says a value of the kind. -/
theorem decode_eq_ok_iff {decode : Decoder α} {Kind : Reading → α → Prop}
    (h : ∀ x a, decode x = .ok a ↔ Kind x a) {d : Document} {a : α} :
    d.decode decode = .ok a ↔ Says Kind d a := by
  rw [Says, ← h]
  unfold Document.decode
  cases decode d.value with
  | error e => simp
  | ok b => cases d.complete <;> simp

/-! ### Reading records -/

theorem key_eq_ok_iff {k : Option Text} {t : Text} : Decoder.key k = .ok t ↔ k = some t := by
  cases k <;> simp [Decoder.key]

theorem skip_eq_ok_iff {x : Reading} : x.skip = .ok () ↔ x.wellFormed = true := by
  unfold Reading.skip
  split <;> simp_all

theorem keyed_iff {members : List (Option Text × Reading)} {named : List (Text × Reading)} :
    Record.Keyed Decoder.key members named ↔ members = named.map fun m => (some m.1, m.2) := by
  have hmember : (fun (e : Option Text × Reading) (m : Text × Reading) =>
      Decoder.key e.1 = .ok m.1 ∧ e.2 = m.2) = fun e m => e = (some m.1, m.2) := by
    funext e m
    rw [key_eq_ok_iff, Prod.ext_iff]
  rw [Record.Keyed, hmember, ← List.forall₂_eq_eq_eq, List.forall₂_map_right_iff]

section Records

variable {r : Record Reading Failure σ}

/-- An object is a record iff it was read to its end, its members under unknown keys are JSON and the
others are read. -/
theorem record_object_eq_ok_iff {members : List (Option Text × Reading)} {closed : Bool} {s : σ} :
    Decoder.record r (.object members closed) = .ok s ↔ closed = true ∧
      (∀ m ∈ members, ∀ name, m.1 = some name → r.field? name = none → m.2.wellFormed = true) ∧
      r.readNamed (fun _ => .mistyped) Decoder.key (fun _ => .ok ()) members = .ok s := by
  have hrecord : Decoder.record r (.object members closed) = .ok s ↔ closed = true ∧
      ∃ p, r.readEntries (fun _ => .mistyped) Decoder.key Reading.skip members [] r.blank = .ok p ∧
        r.finish (fun _ => .mistyped) p.1 p.2 = .ok s := by
    rw [Decoder.record]
    cases r.readEntries (fun _ => .mistyped) Decoder.key Reading.skip members [] r.blank <;>
      cases closed <;> simp [bind, Except.bind]
  have hnamed : r.readNamed (fun _ => .mistyped) Decoder.key (fun _ => .ok ()) members = .ok s ↔
      ∃ p, r.readEntries (fun _ => .mistyped) Decoder.key (fun _ => .ok ()) members [] r.blank =
        .ok p ∧ r.finish (fun _ => .mistyped) p.1 p.2 = .ok s := by
    rw [Record.readNamed]
    cases r.readEntries (fun _ => .mistyped) Decoder.key (fun _ => .ok ()) members [] r.blank <;>
      simp
  have hskip : ∀ p, r.readEntries (fun _ => .mistyped) Decoder.key Reading.skip members [] r.blank =
      .ok p ↔ _ := fun p => Record.readEntries_skip_eq_ok_iff
  simp only [hrecord, hnamed, hskip, key_eq_ok_iff, skip_eq_ok_iff, and_assoc, exists_and_left]

theorem record_array_eq_ok_iff {items : List Reading} {closed : Bool} {s : σ} :
    Decoder.record r (.array items closed) = .ok s ↔ closed = true ∧
      r.readListed (Decoder.listProblem closed) items = .ok s := by
  rw [Decoder.record]
  cases r.readListed (Decoder.listProblem closed) items <;> cases closed <;>
    simp [bind, Except.bind]

/-- **Reading records.** A record is read from a value iff the value is an object or an array that
was read to its end, and each field can be read from what the value gives for it. -/
theorem record_eq_ok_iff (hr : r.Orderless) {least : Nat}
    (hleast : ∀ n ≤ r.fields.length, least ≤ n ↔ ∀ f ∈ r.fields.drop n, f.presence = .optional)
    {x : Reading} {s : σ} :
    Decoder.record r x = .ok s ↔ ∃ given, Gives (r.fields.map Field.names) least x given ∧
      chain (List.zipWith Field.take r.fields given) r.blank = some s := by
  have hassemble : ∀ named : List (Text × Reading), chain (List.zipWith Field.take r.fields
      ((r.fields.map Field.names).map fun names => under names named)) r.blank =
        r.assemble named := by
    intro named
    rw [List.map_map, List.zipWith_map_right, List.zipWith_self]
    rfl
  constructor
  · intro h
    cases x with
    | object members closed =>
      rw [record_object_eq_ok_iff, Record.readNamed_eq_ok_iff hr fun _ => rfl] at h
      obtain ⟨rfl, hothers, named, hkeyed, honce, hs⟩ := h
      obtain rfl := keyed_iff.mp hkeyed
      refine ⟨_, .object honce fun m hm hno => ?_, (hassemble named).trans hs⟩
      exact hothers _ (List.mem_map_of_mem hm) m.1 rfl (Record.field?_eq_none_iff.mpr hno)
    | array items closed =>
      rw [record_array_eq_ok_iff, Record.readListed_eq_ok_iff] at h
      obtain ⟨rfl, missing, hlength, hoptional, hs⟩ := h
      have henough : least ≤ items.length := (hleast _ (by omega)).mpr hoptional
      exact ⟨_, .array henough (by rw [List.length_map, hlength]), hs⟩
    | _ => cases h
  · rintro ⟨given, hgives, hs⟩
    cases hgives with
    | @object named honce hothers =>
      rw [record_object_eq_ok_iff, Record.readNamed_eq_ok_iff hr fun _ => rfl]
      refine ⟨rfl, ?_, named, keyed_iff.mpr rfl, honce, (hassemble named).symm.trans hs⟩
      rw [List.forall_mem_map]
      rintro m hm _ ⟨⟩ hnone
      exact hothers m hm (Record.field?_eq_none_iff.mp hnone)
    | @array items missing henough hlength =>
      rw [List.length_map] at hlength
      rw [record_array_eq_ok_iff, Record.readListed_eq_ok_iff]
      exact ⟨rfl, missing, hlength, (hleast _ (by omega)).mp henough, hs⟩

/-- A record of one field. -/
theorem record_one_eq_ok_iff {f : Field Reading Failure σ} {blank : σ} (hnames : f.names.Nodup)
    {least : Nat} (hle : least ≤ 1) (hleast : least = 0 ↔ f.presence = .optional) {x : Reading}
    {s : σ} : Decoder.record { blank, fields := [f] } x = .ok s ↔
      ∃ o, Gives [f.names] least x [o] ∧ chain [f.take o] blank = some s := by
  have horderless : Record.Orderless { blank, fields := [f] } :=
    ⟨by simpa using hnames, List.pairwise_singleton _ _⟩
  have hcount : ∀ n ≤ 1, least ≤ n ↔ ∀ g ∈ [f].drop n, g.presence = .optional := by
    intro n hn
    obtain rfl | rfl : n = 0 ∨ n = 1 := by omega
    · simpa using hleast
    · simpa using hle
  rw [record_eq_ok_iff horderless hcount]
  constructor
  · rintro ⟨given, hgives, hs⟩
    obtain ⟨o, rfl⟩ := List.length_eq_one_iff.mp hgives.length
    exact ⟨o, hgives, hs⟩
  · rintro ⟨o, hgives, hs⟩
    exact ⟨[o], hgives, hs⟩

/-- A record of two fields that may both be missing. -/
theorem record_two_eq_ok_iff {f g : Field Reading Failure σ} {blank : σ}
    (hr : Record.Orderless { blank, fields := [f, g] }) (hf : f.presence = .optional)
    (hg : g.presence = .optional) {x : Reading} {s : σ} :
    Decoder.record { blank, fields := [f, g] } x = .ok s ↔
      ∃ o o', Gives [f.names, g.names] 0 x [o, o'] ∧ chain [f.take o, g.take o'] blank = some s := by
  have hoptional : ∀ n, ∀ h ∈ [f, g].drop n, h.presence = .optional := by
    intro n h hmem
    have hmem := List.mem_of_mem_drop hmem
    simp only [List.mem_cons, List.not_mem_nil, or_false] at hmem
    rcases hmem with rfl | rfl
    · exact hf
    · exact hg
  rw [record_eq_ok_iff hr fun n _ => iff_of_true (Nat.zero_le n) (hoptional n)]
  constructor
  · rintro ⟨given, hgives, hs⟩
    obtain ⟨o, o', rfl⟩ := List.length_eq_two.mp hgives.length
    exact ⟨o, o', hgives, hs⟩
  · rintro ⟨o, o', hgives, hs⟩
    exact ⟨[o, o'], hgives, hs⟩

/-- A field that may be missing, and null, sets its part of the record. -/
theorem chain_orNull {f : Field Reading Failure σ} {decode : Decoder α} {Kind : Reading → α → Prop}
    {set : Option α → σ → σ} {steps : List (σ → Option σ)} {o : Option Reading} {s s' : σ}
    (hp : f.presence ≠ .required)
    (hread : ∀ v s, f.read v s = (Decoder.optional decode v).map (set · s))
    (hkind : ∀ x a, decode x = .ok a ↔ Kind x a) (hnull : ∀ a, ¬ Kind .null a)
    (hset : set none s = s) :
    chain (f.take o :: steps) s = some s' ↔ ∃ a, OrNull Kind o a ∧ chain steps (set a s) = some s' :=
  chain_optional hp hread (fun _ _ => optional_eq_ok_iff hkind hnull)
    (fun _ => ⟨by rintro ⟨⟩; rfl, by rintro rfl; exact .absent⟩) hset

theorem chain_text {f : Field Reading Failure σ} {set : Option Text → σ → σ}
    {steps : List (σ → Option σ)} {o : Option Reading} {s s' : σ} (hp : f.presence ≠ .required)
    (hread : ∀ v s, f.read v s = (Decoder.optional Decoder.text v).map (set · s))
    (hset : set none s = s) :
    chain (f.take o :: steps) s = some s' ↔ ∃ t, OrNull IsText o t ∧ chain steps (set t s) = some s' :=
  chain_orNull hp hread text_eq_ok_iff not_isText_null hset

/-- A record that is made of its one field, which may be null and, by name, missing. -/
theorem record_orNull_eq_ok_iff {f : Field Reading Failure σ} {blank : σ} {decode : Decoder α}
    {Kind : Reading → α → Prop} {make : Option α → σ} {get : σ → Option α} {least : Nat}
    (hnames : f.names.Nodup) (hle : least ≤ 1) (hleast : least = 0 ↔ f.presence = .optional)
    (hp : f.presence ≠ .required)
    (hread : ∀ v s, f.read v s = (Decoder.optional decode v).map make)
    (hkind : ∀ x a, decode x = .ok a ↔ Kind x a) (hnull : ∀ a, ¬ Kind .null a)
    (hblank : make none = blank) (hget : ∀ a, get (make a) = a) (hmake : ∀ s, make (get s) = s)
    {x : Reading} {s : σ} :
    Decoder.record { blank, fields := [f] } x = .ok s ↔
      ∃ o, Gives [f.names] least x [o] ∧ OrNull Kind o (get s) := by
  rw [record_one_eq_ok_iff hnames hle hleast]
  refine exists_congr fun o => and_congr_right fun _ => ?_
  have hchain : chain [f.take o] blank = some s ↔
      ∃ a, OrNull Kind o a ∧ chain [] (make a) = some s :=
    chain_orNull hp hread hkind hnull hblank
  rw [hchain]
  constructor
  · rintro ⟨a, ha, hs⟩
    obtain rfl : make a = s := Option.some.inj hs
    rw [hget]
    exact ha
  · intro h
    exact ⟨get s, h, congrArg some (hmake s)⟩

end Records

end MangaPress.Json
