/-
# Values with keys in another spelling

A key may have more than one spelling. A value in which some keys are spelled in another way, at any
depth, is the same to every decoder that knows the spellings of a key all together or not at all
(`Overlooks`): decoders of texts, of what may be null, of lists, and of records whose fields respect
the spellings (`Record.Respects`). Where a key stands twice, it does so in any spelling.

Key definitions: `Respelled`, `Document.Respelled`, `Overlooks`, `Record.Respects`.
Key theorems: `Respelled.wellFormed_eq`, `overlooks_record`, `Overlooks.decode_eq`.
-/
import MangaPress.Proofs.Json.Agree
import Mathlib.Data.List.Find

namespace MangaPress

namespace Record

variable {ρ ε σ : Type} {r : Record ρ ε σ} {spellings : List (List Text)}

/-- Each field goes by all spellings of a key or by none of them. -/
def Respects (spellings : List (List Text)) (r : Record ρ ε σ) : Prop :=
  ∀ keys ∈ spellings, ∀ names ∈ r.fields.map Field.names,
    (∀ k ∈ keys, k ∈ names) ∨ ∀ k ∈ keys, k ∉ names

instance : Decidable (r.Respects spellings) :=
  inferInstanceAs (Decidable (∀ keys ∈ spellings, ∀ names ∈ r.fields.map Field.names,
    (∀ k ∈ keys, k ∈ names) ∨ ∀ k ∈ keys, k ∉ names))

/-- Two spellings of a key are those of the same field. -/
theorem Respects.field?_eq (h : r.Respects spellings) {keys : List Text} (hkeys : keys ∈ spellings)
    {k k' : Text} (hk : k ∈ keys) (hk' : k' ∈ keys) : r.field? k = r.field? k' := by
  have hfinds : ∀ (f : Field ρ ε σ) (key : Text),
      (f.name == key || f.otherNames.contains key) = decide (key ∈ f.names) := by
    intro f key
    by_cases hname : f.name = key
    · simp [Field.names, hname]
    · simp [Field.names, hname, Ne.symm hname]
  unfold field?
  simp only [hfinds]
  apply List.find?_congr
  intro f hf
  rcases h keys hkeys f.names (List.mem_map_of_mem hf) with hall | hnone
  · simp [hall k hk, hall k' hk']
  · simp [hnone k hk, hnone k' hk']

section Related

variable {problem : FieldProblem → ε} {V : ρ → ρ → Prop} {R : σ → σ → Prop}

theorem readFields_agree_of_forall₂ : ∀ {fields : List (Field ρ ε σ)} {items items' : List ρ}
    {s s' : σ}, Relates fields (fun _ => V) R → List.Forall₂ V items items' → R s s' →
    Agree (fun p p' => R p.1 p'.1 ∧ List.Forall₂ V p.2 p'.2) (readFields problem fields items s)
      (readFields problem fields items' s')
  | [], _, _, _, _, _, h, hs => by
    unfold readFields
    exact .ok ⟨hs, h⟩
  | f :: fields, _, _, _, _, hfields, .nil, hs => by
    have hrest : Relates fields (fun _ => V) R := fun g hg => hfields g (List.mem_cons_of_mem _ hg)
    unfold readFields
    split
    · exact readFields_agree_of_forall₂ hrest .nil hs
    · exact .error _
  | f :: fields, v :: _, v' :: _, s, s', hfields, .cons hv h, hs => by
    have hrest : Relates fields (fun _ => V) R := fun g hg => hfields g (List.mem_cons_of_mem _ hg)
    have hread := hfields f List.mem_cons_self f.name List.mem_cons_self v v' s s' hv hs
    unfold readFields
    generalize f.read v s = y, f.read v' s' = y' at hread
    cases hread with
    | error e => exact .error e
    | ok hs => exact readFields_agree_of_forall₂ hrest h hs

/-- Lists of items that are related one by one are read alike, even where there are too many. -/
theorem readListed_agree_of_forall₂ (hfields : Relates r.fields (fun _ => V) R)
    (hblank : R r.blank r.blank) {items items' : List ρ} (h : List.Forall₂ V items items') :
    Agree R (r.readListed problem items) (r.readListed problem items') := by
  have hread : Agree _ (readFields problem r.fields items r.blank)
      (readFields problem r.fields items' r.blank) := readFields_agree_of_forall₂ hfields h hblank
  unfold readListed
  generalize readFields problem r.fields items r.blank = y,
    readFields problem r.fields items' r.blank = y' at hread
  cases hread with
  | error e => exact .error e
  | @ok p p' hp =>
    obtain ⟨s, left⟩ := p
    obtain ⟨s', left'⟩ := p'
    obtain ⟨hs, hleft⟩ := hp
    cases hleft with
    | nil => exact .ok hs
    | cons _ _ => exact .error _

end Related

end Record

namespace Json

variable {α σ : Type} {spellings : List (List Text)}

/-! ### Respelled values -/

/-- The same key, or two spellings of one key. -/
inductive SameKey (spellings : List (List Text)) : Option Text → Option Text → Prop where
  | same (k : Option Text) : SameKey spellings k k
  | respelled {keys : List Text} {k k' : Text} (h : keys ∈ spellings) (hk : k ∈ keys)
    (hk' : k' ∈ keys) : SameKey spellings (some k) (some k')

/-- Spellings of one key are read as names of the same field, if it is read at all. -/
theorem SameKey.field?_eq {r : Record Reading Failure σ} (hr : r.Respects spellings)
    {k k' : Option Text} (h : SameKey spellings k k') :
    (Decoder.key k).map r.field? = (Decoder.key k').map r.field? := by
  cases h with
  | same => rfl
  | respelled hkeys hk hk' => exact congrArg Except.ok (hr.field?_eq hkeys hk hk')

mutual

/-- The value with some of its keys respelled, at any depth. -/
inductive Respelled (spellings : List (List Text)) : Reading → Reading → Prop where
  | same (x : Reading) : Respelled spellings x x
  | array {xs xs' : List Reading} {closed : Bool} (h : ItemsRespelled spellings xs xs') :
    Respelled spellings (.array xs closed) (.array xs' closed)
  | object {ms ms' : List (Option Text × Reading)} {closed : Bool}
    (h : MembersRespelled spellings ms ms') :
    Respelled spellings (.object ms closed) (.object ms' closed)

/-- The items with some of their keys respelled. -/
inductive ItemsRespelled (spellings : List (List Text)) : List Reading → List Reading → Prop where
  | nil : ItemsRespelled spellings [] []
  | cons {x x' : Reading} {xs xs' : List Reading} (hx : Respelled spellings x x')
    (hxs : ItemsRespelled spellings xs xs') : ItemsRespelled spellings (x :: xs) (x' :: xs')

/-- The members with some keys of theirs or of their values respelled. -/
inductive MembersRespelled (spellings : List (List Text)) :
    List (Option Text × Reading) → List (Option Text × Reading) → Prop where
  | nil : MembersRespelled spellings [] []
  | cons {k k' : Option Text} {x x' : Reading} {ms ms' : List (Option Text × Reading)}
    (hk : SameKey spellings k k') (hx : Respelled spellings x x')
    (hms : MembersRespelled spellings ms ms') :
    MembersRespelled spellings ((k, x) :: ms) ((k', x') :: ms')

end

mutual

/-- A value with keys respelled is read to its end iff the value is. -/
theorem Respelled.wellFormed_eq : ∀ {x x' : Reading}, Respelled spellings x x' →
    x.wellFormed = x'.wellFormed
  | _, _, .same _ => rfl
  | _, _, .array h => by
    rw [Reading.wellFormed, Reading.wellFormed, h.wellFormed_eq]
  | _, _, .object h => by
    rw [Reading.wellFormed, Reading.wellFormed, h.wellFormed_eq]

theorem ItemsRespelled.wellFormed_eq : ∀ {xs xs' : List Reading},
    ItemsRespelled spellings xs xs' → Reading.allWellFormed xs = Reading.allWellFormed xs'
  | _, _, .nil => rfl
  | _, _, .cons hx hxs => by
    rw [Reading.allWellFormed, Reading.allWellFormed, hx.wellFormed_eq, hxs.wellFormed_eq]

theorem MembersRespelled.wellFormed_eq : ∀ {ms ms' : List (Option Text × Reading)},
    MembersRespelled spellings ms ms' →
    Reading.allMembersWellFormed ms = Reading.allMembersWellFormed ms'
  | _, _, .nil => rfl
  | _, _, .cons _ hx hms => by
    rw [Reading.allMembersWellFormed, Reading.allMembersWellFormed, hx.wellFormed_eq,
      hms.wellFormed_eq]

end

theorem Respelled.skip_eq {x x' : Reading} (h : Respelled spellings x x') : x.skip = x'.skip := by
  rw [Reading.skip, Reading.skip, h.wellFormed_eq]

theorem ItemsRespelled.forall₂ : ∀ {xs xs' : List Reading}, ItemsRespelled spellings xs xs' →
    List.Forall₂ (Respelled spellings) xs xs'
  | _, _, .nil => .nil
  | _, _, .cons hx hxs => .cons hx hxs.forall₂

theorem MembersRespelled.forall₂ : ∀ {ms ms' : List (Option Text × Reading)},
    MembersRespelled spellings ms ms' →
    List.Forall₂ (fun m m' => SameKey spellings m.1 m'.1 ∧ Respelled spellings m.2 m'.2) ms ms'
  | _, _, .nil => .nil
  | _, _, .cons hk hx hms => .cons ⟨hk, hx⟩ hms.forall₂

/-! ### Decoders that overlook the spelling -/

/-- The decoder reads the same from a value and from the value with keys respelled. -/
def Overlooks (spellings : List (List Text)) (decode : Decoder α) : Prop :=
  ∀ x x', Respelled spellings x x' → decode x = decode x'

theorem overlooks_text : Overlooks spellings Decoder.text := by
  intro x x' h
  cases h <;> rfl

/-- What is kept of a value does not bring its spelling back. -/
theorem Overlooks.map {decode : Decoder α} (hd : Overlooks spellings decode) (keep : α → σ) :
    Overlooks spellings fun x => (decode x).map keep := by
  intro x x' h
  exact congrArg (Except.map keep) (hd x x' h)

theorem Overlooks.optional {decode : Decoder α} (hd : Overlooks spellings decode) :
    Overlooks spellings (Decoder.optional decode) := by
  intro x x' h
  by_cases hx : x = .null
  · subst hx
    cases h
    rfl
  · have hx' : x' ≠ .null := by
      rintro rfl
      cases h
      exact hx rfl
    rw [optional_of_ne_null decode hx, optional_of_ne_null decode hx', hd x x' h]

theorem Overlooks.list {decode : Decoder α} (hd : Overlooks spellings decode) :
    Overlooks spellings (Decoder.list decode) := by
  have hitems : ∀ {xs xs' : List Reading}, List.Forall₂ (Respelled spellings) xs xs' →
      xs.mapM decode = xs'.mapM decode := by
    intro xs xs' h
    induction h with
    | nil => rfl
    | cons hx _ ih => rw [mapM_cons_eq, mapM_cons_eq, hd _ _ hx, ih]
  intro x x' h
  cases h with
  | same => rfl
  | array h => rw [Decoder.list, Decoder.list, hitems h.forall₂]
  | object h => rfl

/-- **Records.** Where each field goes by all spellings of a key or by none, and reads the same from
values with keys respelled, so does the record. -/
theorem overlooks_record {r : Record Reading Failure σ} (hr : r.Respects spellings)
    (hread : ∀ f ∈ r.fields, ∀ s, Overlooks spellings fun x => f.read x s) :
    Overlooks spellings (Decoder.record r) := by
  have hfields : Record.Relates r.fields (fun _ => Respelled spellings) Eq := by
    rintro f hf name _ v v' s _ hv rfl
    exact agree_eq_iff.mpr (hread f hf s v v' hv)
  intro x x' h
  rw [← agree_eq_iff]
  cases h with
  | same => exact agree_eq_iff.mpr rfl
  | @array xs xs' closed h =>
    refine (Record.readListed_agree_of_forall₂ hfields rfl h.forall₂).bind fun s s' hs => ?_
    split
    · exact .ok hs
    · exact .error _
  | @object ms ms' closed h =>
    have hmembers : List.Forall₂ (fun m m' =>
        (Decoder.key m.1).map r.field? = (Decoder.key m'.1).map r.field? ∧
          ∀ name, Decoder.key m.1 = .ok name → Respelled spellings m.2 m'.2) ms ms' :=
      h.forall₂.imp fun m m' ⟨hk, hx⟩ => ⟨hk.field?_eq hr, fun _ _ => hx⟩
    refine (Record.readEntries_agree hfields (fun _ _ _ _ hx => hx.skip_eq) hmembers rfl).bind
      fun p p' ⟨hseen, hs⟩ => ?_
    dsimp only
    rw [hseen]
    split
    · exact Record.finish_agree hs _
    · exact .error _

theorem overlooks_record_one {f : Field Reading Failure σ} {blank : σ}
    (hr : Record.Respects spellings { blank, fields := [f] })
    (hf : ∀ s, Overlooks spellings fun x => f.read x s) :
    Overlooks spellings (Decoder.record { blank, fields := [f] }) :=
  overlooks_record hr (List.forall_mem_singleton.mpr hf)

theorem overlooks_record_two {f g : Field Reading Failure σ} {blank : σ}
    (hr : Record.Respects spellings { blank, fields := [f, g] })
    (hf : ∀ s, Overlooks spellings fun x => f.read x s)
    (hg : ∀ s, Overlooks spellings fun x => g.read x s) :
    Overlooks spellings (Decoder.record { blank, fields := [f, g] }) :=
  overlooks_record hr (List.forall_mem_cons.mpr ⟨hf, List.forall_mem_singleton.mpr hg⟩)

/-! ### Documents -/

/-- The source says the same with some keys respelled. -/
structure Document.Respelled (spellings : List (List Text)) (d d' : Document) : Prop where
  value : Json.Respelled spellings d.value d'.value
  complete : d.complete = d'.complete

theorem Overlooks.decode_eq {decode : Decoder α} (hd : Overlooks spellings decode) {d d' : Document}
    (h : d.Respelled spellings d') : d.decode decode = d'.decode decode := by
  rw [Document.decode, Document.decode, hd _ _ h.value, h.complete]

end Json
end MangaPress
