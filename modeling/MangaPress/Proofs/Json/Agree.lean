/-
# Values that differ in places

Two objects or arrays that are the same but in some places are read as the same record, or with the
same problem, as far as the values in these places are (`record_object_agree`, `record_array_agree`).
The one place may be what a value gives for the first field of a record (`Within`). Items that can be
read may be put between others without any new problem (`Inserts`).

Key definitions: `Within`, `Exchanged`, `Inserts`.
Key theorems: `record_object_agree`, `record_array_agree`, `record_within`,
`record_within_optional`, `Inserts.mapM_agree`.
-/
import MangaPress.Json.Decode
import MangaPress.Proofs.Record.Given

namespace MangaPress

namespace Json

variable {α σ : Type}

/-! ### Records from related values -/

section Records

variable {r : Record Reading Failure σ} {R : σ → σ → Prop} {V : Text → Reading → Reading → Prop}

theorem record_object_agree (hfields : Record.Relates r.fields V R)
    (hskip : ∀ name, r.field? name = none → ∀ v v', V name v v' → v.skip = v'.skip)
    (hblank : R r.blank r.blank) {members members' : List (Option Text × Reading)} (closed : Bool)
    (h : List.Forall₂ (fun m m' => m.1 = m'.1 ∧ ∀ name, m.1 = some name → V name m.2 m'.2)
      members members') :
    Agree R (Decoder.record r (.object members closed))
      (Decoder.record r (.object members' closed)) := by
  -- Values are compared under the keys as they are read; one that cannot be read ends the reading.
  have hmembers : List.Forall₂ (fun m m' =>
      (Decoder.key m.1).map r.field? = (Decoder.key m'.1).map r.field? ∧
        ∀ name, Decoder.key m.1 = .ok name → V name m.2 m'.2) members members' := by
    refine h.imp fun m m' ⟨hkey, hvalue⟩ => ⟨by rw [hkey], fun name hname => ?_⟩
    cases hm : m.1 with
    | none =>
      rw [hm] at hname
      cases hname
    | some t =>
      rw [hm] at hname
      cases hname
      exact hvalue _ hm
  have hread : Agree (fun p p' => p.1 = p'.1 ∧ R p.2 p'.2)
      (r.readEntries (fun _ => .mistyped) Decoder.key Reading.skip members [] r.blank)
      (r.readEntries (fun _ => .mistyped) Decoder.key Reading.skip members' [] r.blank) :=
    Record.readEntries_agree hfields hskip hmembers hblank
  refine hread.bind fun p p' ⟨hseen, hs⟩ => ?_
  dsimp only
  rw [hseen]
  split
  · exact Record.finish_agree hs _
  · exact .error _

theorem record_array_agree (hrefl : ∀ name v, V name v v) (hfields : Record.Relates r.fields V R)
    (hblank : R r.blank r.blank) {items items' : List Reading} (closed : Bool)
    (h : Record.Aligned V (r.fields.map Field.name) items items') :
    Agree R (Decoder.record r (.array items closed)) (Decoder.record r (.array items' closed)) := by
  refine (Record.readListed_agree hrefl hfields hblank h).bind fun s s' hs => ?_
  split
  · exact .ok hs
  · exact .error _

end Records

/-! ### One place -/

/-- The values are the same but for what they give for a field that is the first of a record: in the
one this is `v`, in the other `v'`. -/
inductive Within (names : List Text) (v v' : Reading) : Reading → Reading → Prop where
  | member {before after : List (Option Text × Reading)} {name : Text} (hname : name ∈ names) :
    Within names v v' (.object (before ++ (some name, v) :: after) true)
      (.object (before ++ (some name, v') :: after) true)
  | item {rest : List Reading} : Within names v v' (.array (v :: rest) true) (.array (v' :: rest) true)

/-- The same value, or under one of the names the one for the other. -/
def Exchanged (names : List Text) (v v' : Reading) (name : Text) (a a' : Reading) : Prop :=
  a = a' ∨ name ∈ names ∧ a = v ∧ a' = v'

theorem optional_of_ne_null (decode : Decoder α) {x : Reading} (h : x ≠ .null) :
    Decoder.optional decode x = (decode x).map some := by
  rw [Decoder.optional]
  exact h

section Within

variable {names : List Text} {v v' x x' : Reading}

theorem Within.symm (h : Within names v v' x x') : Within names v' v x' x := by
  cases h with
  | member hname => exact .member hname
  | item => exact .item

theorem Within.ne_null (h : Within names v v' x x') : x ≠ .null := by
  cases h <;> nofun

/-- **One place.** Records of one field that sets all of them are read from values that differ in
what they give for the field with the same problem, or as related records, if the field is. -/
theorem record_within {f : Field Reading Failure σ} {blank : σ} {R : σ → σ → Prop}
    (hrefl : ∀ s, R s s) (hall : ∀ a s s', f.read a s = f.read a s')
    (hread : Agree R (f.read v blank) (f.read v' blank)) (h : Within f.names v v' x x') :
    Agree R (Decoder.record { blank, fields := [f] } x)
      (Decoder.record { blank, fields := [f] } x') := by
  have hsame : ∀ name a, Exchanged f.names v v' name a a := fun _ _ => .inl rfl
  have hfields : Record.Relates [f] (Exchanged f.names v v') R := by
    intro g hg name hname a a' s s' ha _
    obtain rfl := List.mem_singleton.mp hg
    rw [hall a s blank, hall a' s' blank]
    rcases ha with rfl | ⟨-, rfl, rfl⟩
    · exact Agree.refl hrefl _
    · exact hread
  have hskip : ∀ name, Record.field? { blank, fields := [f] } name = none →
      ∀ a a', Exchanged f.names v v' name a a' → a.skip = a'.skip := by
    rintro name hnone a a' (rfl | ⟨hname, -, -⟩)
    · rfl
    · exact absurd hname (Record.field?_eq_none_iff.mp hnone _ List.mem_cons_self)
  cases h with
  | @member before after name hname =>
    have hrest : ∀ ms : List (Option Text × Reading), List.Forall₂ (fun m m' => m.1 = m'.1 ∧
        ∀ name, m.1 = some name → Exchanged f.names v v' name m.2 m'.2) ms ms := fun ms =>
      List.forall₂_same.mpr fun m _ => ⟨rfl, fun name _ => hsame name m.2⟩
    refine record_object_agree hfields hskip (hrefl _) true ?_
    refine List.rel_append (hrest before) (.cons ⟨rfl, ?_⟩ (hrest after))
    rintro _ ⟨⟩
    exact .inr ⟨hname, rfl, rfl⟩
  | item =>
    refine record_array_agree hsame hfields (hrefl _) true ?_
    exact .cons (.inr ⟨Record.Orderless.mem_names_self f, rfl, rfl⟩) (.rest _ _)

/-- One place at the level of a field that may be null, where neither value is. -/
theorem record_within_optional {f : Field Reading Failure σ} {blank : σ} {decode : Decoder α}
    {make : Option α → σ} {Q : α → α → Prop} {R : σ → σ → Prop} (hrefl : ∀ s, R s s)
    (hfield : ∀ a s, f.read a s = (Decoder.optional decode a).map make)
    (hmake : ∀ a b, Q a b → R (make (some a)) (make (some b)))
    (hread : Agree Q (decode v) (decode v')) (h : Within f.names v v' x x') (hv : v ≠ .null)
    (hv' : v' ≠ .null) :
    Agree R (Decoder.record { blank, fields := [f] } x)
      (Decoder.record { blank, fields := [f] } x') := by
  have hsome : Agree (fun o o' => R (make o) (make o')) ((decode v).map some)
      ((decode v').map some) := hread.map hmake
  refine record_within hrefl (fun a s s' => by rw [hfield, hfield]) ?_ h
  rw [hfield, hfield, optional_of_ne_null decode hv, optional_of_ne_null decode hv']
  exact hsome.map fun _ _ hs => hs

end Within

/-! ### Whole sources, and more items -/

/-- Sources that both end after their values, or both do not, are read as their values are. -/
theorem Document.decode_agree {R : α → α → Prop} {decode : Decoder α} {d d' : Document}
    (hcomplete : d'.complete = d.complete) (h : Agree R (decode d.value) (decode d'.value)) :
    Agree R (d.decode decode) (d'.decode decode) := by
  unfold Document.decode
  rw [hcomplete]
  generalize decode d.value = y, decode d'.value = y' at h
  cases h with
  | error e => exact .error e
  | ok h =>
    dsimp only
    split
    · exact .ok h
    · exact .error _

theorem list_closed (decode : Decoder α) (items : List Reading) :
    Decoder.list decode (.array items true) = items.mapM decode := by
  rw [Decoder.list]
  cases items.mapM decode <;> rfl

end Json

/-- Items with the property stand between those that were there. -/
inductive Inserts {α : Type} (P : α → Prop) : List α → List α → Prop where
  | nil : Inserts P [] []
  | keep (x : α) {xs ys : List α} (h : Inserts P xs ys) : Inserts P (x :: xs) (x :: ys)
  | insert {y : α} {xs ys : List α} (hy : P y) (h : Inserts P xs ys) : Inserts P xs (y :: ys)

/-- Items that can be read bring no new problem. -/
theorem Inserts.mapM_agree {α β ε : Type} {P : α → Prop} {read : α → Except ε β}
    (hread : ∀ y, P y → ∃ b, read y = .ok b) {xs ys : List α} (h : Inserts P xs ys) :
    Agree (fun _ _ => True) (xs.mapM read) (ys.mapM read) := by
  induction h with
  | nil => exact .ok trivial
  | keep x h ih =>
    rw [mapM_cons_eq, mapM_cons_eq]
    cases read x with
    | error e => exact .error e
    | ok a => exact ih.map fun _ _ _ => trivial
  | @insert y xs ys hy h ih =>
    obtain ⟨b, hb⟩ := hread y hy
    rw [mapM_cons_eq, hb]
    exact ih.map_right fun _ _ _ => trivial

end MangaPress
