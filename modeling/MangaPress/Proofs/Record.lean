/-
# Records do not depend on the order of their entries

A record is read entry by entry in the order in which the entries stand. Where its fields are
independent (`Record.Orderless`: no two go by one name, and reading one does not disturb another),
the order makes no difference to what is read: a record is read iff every key is a name, no field
is given twice and none that has to be given is missing, and then each field is read from the value
under its own names (`Record.readNamed_eq_ok_iff`).

Inputs whose values are related, field by field, are read with the same problem or as related records
(`Record.readEntries_agree`, `Record.readListed_agree`).

Key definitions: `Field.names`, `under`, `Record.Once`, `Record.Keyed`, `Field.take`,
`Record.assemble`, `Record.Orderless`, `Record.Aligned`.
Key theorems: `Record.readEntries_eq_ok_iff`, `Record.readNamed_eq_ok_iff`,
`Record.readEntries_agree`, `Record.readListed_agree`.
-/
import MangaPress.Proofs.Agree
import MangaPress.Record
import Mathlib.Data.List.Perm.Lattice
import Mathlib.Data.List.Nodup
import Mathlib.Data.List.Pairwise

namespace MangaPress

variable {ρ ε σ κ : Type}

/-- The value of the first entry under one of the names. -/
def under (names : List Text) (named : List (Text × ρ)) : Option ρ :=
  (named.find? fun m => names.contains m.1).map Prod.snd

namespace Field

/-- All names of a field. -/
def names (f : Field ρ ε σ) : List Text :=
  f.name :: f.otherNames

/-- What a field makes of the value that is given for it, if one is. -/
def take (f : Field ρ ε σ) : Option ρ → σ → Option σ
  | some v, s => (f.read v s).toOption
  | none, s => if f.presence = .required then none else some s

/-- Two fields can be read in either order. -/
def Commutes (f g : Field ρ ε σ) : Prop :=
  ∀ v w s, (f.read v s).toOption.bind (fun s => (g.read w s).toOption) =
    (g.read w s).toOption.bind fun s => (f.read v s).toOption

theorem Commutes.symm {f g : Field ρ ε σ} (h : f.Commutes g) : g.Commutes f :=
  fun v w s => (h w v s).symm

/-- Fields that set parts of their own can be read in either order. -/
theorem commutes_of_set {f g : Field ρ ε σ} {α β : Type} {read : ρ → Except ε α}
    {set : α → σ → σ} {read' : ρ → Except ε β} {set' : β → σ → σ}
    (hf : ∀ v s, f.read v s = (read v).map (set · s))
    (hg : ∀ v s, g.read v s = (read' v).map (set' · s))
    (hset : ∀ a b s, set' b (set a s) = set a (set' b s)) : f.Commutes g := by
  intro v w s
  simp only [hf, hg]
  cases read v <;> cases read' w <;> simp [Except.map, Except.toOption, hset]

end Field

/-- Steps taken one after the other, up to the first that fails. -/
def chain (steps : List (σ → Option σ)) (s : σ) : Option σ :=
  steps.foldlM (fun s step => step s) s

@[simp]
theorem chain_nil (s : σ) : chain [] s = some s := rfl

theorem chain_cons (step : σ → Option σ) (steps : List (σ → Option σ)) (s : σ) :
    chain (step :: steps) s = (step s).bind (chain steps) := rfl

/-- An optional field sets its part of the record, and leaves it as it is where nothing is given. -/
theorem chain_optional {α : Type} {f : Field ρ ε σ} {read : ρ → Except ε α} {set : α → σ → σ}
    {Kind : Option ρ → α → Prop} {a : α} {o : Option ρ} {steps : List (σ → Option σ)} {s s' : σ}
    (hp : f.presence ≠ .required) (hread : ∀ v s, f.read v s = (read v).map (set · s))
    (hkind : ∀ v a, read v = .ok a ↔ Kind (some v) a) (hnone : ∀ b, Kind none b ↔ b = a)
    (hset : set a s = s) :
    chain (f.take o :: steps) s = some s' ↔ ∃ a, Kind o a ∧ chain steps (set a s) = some s' := by
  rw [chain_cons]
  cases o with
  | none => simp [Field.take, hp, hnone, hset]
  | some v =>
    rw [Field.take, hread]
    simp only [← hkind]
    cases read v <;> simp [Except.map, Except.toOption]

/-- The order of steps that commute does not matter. -/
theorem chain_perm {steps steps' : List (σ → Option σ)} (hp : steps.Perm steps')
    (hcomm : ∀ f ∈ steps, ∀ g ∈ steps, ∀ s, (f s).bind g = (g s).bind f) :
    chain steps = chain steps' := by
  induction hp with
  | nil => rfl
  | cons step _ ih =>
    have hrest := ih fun f hf g hg =>
      hcomm f (List.mem_cons_of_mem _ hf) g (List.mem_cons_of_mem _ hg)
    funext s
    rw [chain_cons, chain_cons, hrest]
  | swap f g steps =>
    have hfg := hcomm f (by simp) g (by simp)
    funext s
    rw [chain_cons, chain_cons]
    show (g s).bind (fun s => (f s).bind (chain steps)) = (f s).bind fun s => (g s).bind (chain steps)
    rw [← Option.bind_assoc, ← Option.bind_assoc, hfg]
  | trans h _ ih ih' =>
    rw [ih hcomm, ih' fun f hf g hg => hcomm f (h.mem_iff.mpr hf) g (h.mem_iff.mpr hg)]

namespace Record

/-- No two entries are under names of one field. -/
def Once (fields : List (List Text)) (named : List (Text × ρ)) : Prop :=
  named.Pairwise fun a b => ∀ names ∈ fields, ¬ (a.1 ∈ names ∧ b.1 ∈ names)

/-- The entries have names for keys, and these are the names with their values. -/
def Keyed (key : κ → Except ε Text) (entries : List (κ × ρ)) (named : List (Text × ρ)) : Prop :=
  List.Forall₂ (fun e m => key e.1 = .ok m.1 ∧ e.2 = m.2) entries named

/-- The record made by reading each field in declared order from what is given for it. -/
def assemble (r : Record ρ ε σ) (named : List (Text × ρ)) : Option σ :=
  chain (r.fields.map fun f => f.take (under f.names named)) r.blank

/-- The fields are independent of each other. -/
structure Orderless (r : Record ρ ε σ) : Prop where
  nodup : (r.fields.flatMap Field.names).Nodup
  commutes : r.fields.Pairwise Field.Commutes

variable {r : Record ρ ε σ}

/-! ### Names and fields -/

theorem mem_of_field? {key : Text} {f : Field ρ ε σ} (h : r.field? key = some f) :
    f ∈ r.fields ∧ key ∈ f.names := by
  have hp := List.find?_some h
  rw [Bool.or_eq_true, beq_iff_eq, List.contains_iff_mem] at hp
  refine ⟨List.mem_of_find?_eq_some h, ?_⟩
  rw [Field.names, List.mem_cons]
  exact hp.imp_left Eq.symm

namespace Orderless

theorem eq_of_mem_names (h : r.Orderless) {f g : Field ρ ε σ} (hf : f ∈ r.fields)
    (hg : g ∈ r.fields) {key : Text} (hkf : key ∈ f.names) (hkg : key ∈ g.names) : f = g := by
  by_contra hne
  have hdisjoint := (List.nodup_flatMap.mp h.nodup).2
  have : Std.Symm (Function.onFun List.Disjoint (Field.names : Field ρ ε σ → List Text)) :=
    ⟨fun _ _ h => h.symm⟩
  exact hdisjoint.forall hf hg hne hkf hkg

theorem field?_eq_some_iff (h : r.Orderless) {key : Text} {f : Field ρ ε σ} :
    r.field? key = some f ↔ f ∈ r.fields ∧ key ∈ f.names := by
  refine ⟨mem_of_field?, fun ⟨hf, hk⟩ => ?_⟩
  cases hg : r.field? key with
  | none =>
    have hno := List.find?_eq_none.mp hg f hf
    simp only [Field.names, List.mem_cons] at hk
    simp_all
  | some g =>
    obtain ⟨hmem, hkg⟩ := mem_of_field? hg
    rw [h.eq_of_mem_names hmem hf hkg hk]

theorem commute (h : r.Orderless) {f g : Field ρ ε σ} (hf : f ∈ r.fields) (hg : g ∈ r.fields)
    (hne : f ≠ g) : f.Commutes g :=
  have : Std.Symm (Field.Commutes : Field ρ ε σ → Field ρ ε σ → Prop) :=
    ⟨fun _ _ => Field.Commutes.symm⟩
  h.commutes.forall hf hg hne

end Orderless

/-! ### Entries in their own order -/

/-- The fields that entries are for, each with its value. -/
def found (r : Record ρ ε σ) (named : List (Text × ρ)) : List (Field ρ ε σ × ρ) :=
  named.filterMap fun m => (r.field? m.1).map fun f => (f, m.2)

/-- The names of the fields that entries are for. -/
def foundNames (r : Record ρ ε σ) (named : List (Text × ρ)) : List Text :=
  (r.found named).map fun p => p.1.name

/-- What a field makes of a value. -/
def step (p : Field ρ ε σ × ρ) (s : σ) : Option σ :=
  (p.1.read p.2 s).toOption

section Entries

variable {problem : FieldProblem → ε} {key : κ → Except ε Text} {skip : ρ → Except ε Unit}

theorem found_cons_of_none {name : Text} (h : r.field? name = none) (v : ρ)
    (named : List (Text × ρ)) : r.found ((name, v) :: named) = r.found named := by
  rw [found, List.filterMap_cons_none (by rw [h]; rfl), found]

theorem found_cons_of_some {name : Text} {f : Field ρ ε σ} (h : r.field? name = some f) (v : ρ)
    (named : List (Text × ρ)) : r.found ((name, v) :: named) = (f, v) :: r.found named := by
  rw [found, List.filterMap_cons_some (by rw [h]; rfl), found]

/-- Entries are read iff their keys are names and each is for a field that was not seen before; then
their fields are read in the order of the entries. -/
theorem readEntries_eq_ok_iff (hskip : ∀ v, skip v = .ok ()) :
    ∀ {entries : List (κ × ρ)} {seen seen' : List Text} {s s' : σ}, seen.Nodup →
    (r.readEntries problem key skip entries seen s = .ok (seen', s') ↔
      ∃ named, Keyed key entries named ∧ seen' = (r.foundNames named).reverse ++ seen ∧
        seen'.Nodup ∧ chain ((r.found named).map step) s = some s')
  | [], seen, seen', s, s', hs => by
    constructor
    · intro h
      cases h
      exact ⟨[], .nil, rfl, hs, rfl⟩
    · rintro ⟨named, hk, rfl, -, hc⟩
      cases hk
      cases hc
      rfl
  | (k, v) :: rest, seen, seen', s, s', hs => by
    rw [readEntries]
    cases hk : key k with
    | error e =>
      refine ⟨nofun, ?_⟩
      rintro ⟨named, hkeyed, -⟩
      obtain _ | ⟨⟨hm, -⟩, -⟩ := hkeyed
      rw [hk] at hm
      cases hm
    | ok name =>
      dsimp only
      -- The names of an entry list that begins with this one begin with this name.
      have hsplit : ∀ P : List (Text × ρ) → Prop, (∃ named, Keyed key ((k, v) :: rest) named ∧
          P named) ↔ ∃ named, Keyed key rest named ∧ P ((name, v) :: named) := by
        intro P
        constructor
        · rintro ⟨named, hkeyed, hP⟩
          obtain _ | @⟨_, ⟨name', v'⟩, _, named, ⟨hm, hv⟩, hrest⟩ := hkeyed
          rw [hk] at hm
          cases hm
          cases hv
          exact ⟨named, hrest, hP⟩
        · rintro ⟨named, hrest, hP⟩
          exact ⟨_, .cons ⟨hk, rfl⟩ hrest, hP⟩
      rw [hsplit]
      cases hf : r.field? name with
      | none =>
        dsimp only
        rw [hskip]
        dsimp only
        simp only [foundNames, found_cons_of_none hf]
        exact readEntries_eq_ok_iff hskip hs
      | some f =>
        dsimp only
        simp only [foundNames, found_cons_of_some hf, List.map_cons, chain_cons,
          List.reverse_cons, List.append_assoc, List.singleton_append]
        by_cases hseen : f.name ∈ seen
        · rw [if_pos (List.contains_iff_mem.mpr hseen)]
          refine ⟨nofun, ?_⟩
          rintro ⟨named, -, rfl, hnodup, -⟩
          exact absurd hseen (List.nodup_cons.mp (List.Nodup.of_append_right hnodup)).1
        · rw [if_neg (mt List.contains_iff_mem.mp hseen)]
          cases hread : f.read v s with
          | error e =>
            refine ⟨nofun, ?_⟩
            rintro ⟨named, -, -, -, hc⟩
            rw [step, hread] at hc
            cases hc
          | ok t =>
            dsimp only
            rw [readEntries_eq_ok_iff hskip (List.nodup_cons.mpr ⟨hseen, hs⟩), step, hread]
            rfl

end Entries

/-! ### Fields in declared order -/

/-- The fields that something is given for, in declared order, each with it. -/
def declared (r : Record ρ ε σ) (named : List (Text × ρ)) : List (Field ρ ε σ × ρ) :=
  r.fields.filterMap fun f => (under f.names named).map fun v => (f, v)

variable {named : List (Text × ρ)}

theorem Once.eq {fields : List (List Text)} (h : Once fields named) {names : List Text}
    (hn : names ∈ fields) {a b : Text × ρ} (ha : a ∈ named) (hb : b ∈ named)
    (hka : a.1 ∈ names) (hkb : b.1 ∈ names) : a = b := by
  by_contra hne
  have : Std.Symm fun a b : Text × ρ => ∀ names ∈ fields, ¬ (a.1 ∈ names ∧ b.1 ∈ names) :=
    ⟨fun _ _ h names hn hab => h names hn hab.symm⟩
  exact List.Pairwise.forall h ha hb hne names hn ⟨hka, hkb⟩

/-- Where no field is given twice, what is given for it is the value of the one entry under its
names. -/
theorem Once.under_eq_some_iff {fields : List (List Text)} (h : Once fields named)
    {names : List Text} (hn : names ∈ fields) {v : ρ} :
    under names named = some v ↔ ∃ m ∈ named, m.1 ∈ names ∧ m.2 = v := by
  unfold under
  constructor
  · intro hu
    obtain ⟨m, hm, rfl⟩ := Option.map_eq_some_iff.mp hu
    have hp := List.find?_some hm
    exact ⟨m, List.mem_of_find?_eq_some hm, List.contains_iff_mem.mp hp, rfl⟩
  · rintro ⟨m, hm, hk, rfl⟩
    cases hf : named.find? fun m => names.contains m.1 with
    | none =>
      have hno := List.find?_eq_none.mp hf m hm
      exact absurd (List.contains_iff_mem.mpr hk) hno
    | some m' =>
      have hp := List.find?_some hf
      rw [h.eq hn (List.mem_of_find?_eq_some hf) hm (List.contains_iff_mem.mp hp) hk]
      rfl

namespace Orderless

theorem mem_names_self (f : Field ρ ε σ) : f.name ∈ f.names :=
  List.mem_cons_self

/-- No field is given twice iff the fields that the entries are for differ in their names. -/
theorem foundNames_nodup_iff (h : r.Orderless) :
    (r.foundNames named).Nodup ↔ Once (r.fields.map Field.names) named := by
  unfold foundNames found Once
  rw [List.Nodup, List.pairwise_map, List.pairwise_filterMap]
  refine List.Pairwise.iff fun a b => ?_
  simp only [Option.map_eq_some_iff, h.field?_eq_some_iff, List.forall_mem_map]
  constructor
  · rintro hne f hf ⟨ha, hb⟩
    exact hne _ ⟨f, ⟨hf, ha⟩, rfl⟩ _ ⟨f, ⟨hf, hb⟩, rfl⟩ rfl
  · rintro hno _ ⟨f, ⟨hf, ha⟩, rfl⟩ _ ⟨g, ⟨hg, hb⟩, rfl⟩ hname
    have hfg : f = g := h.eq_of_mem_names hf hg (mem_names_self f) (hname ▸ mem_names_self g)
    exact hno f hf ⟨ha, hfg ▸ hb⟩

theorem mem_found_iff (h : r.Orderless) {p : Field ρ ε σ × ρ} :
    p ∈ r.found named ↔ p.1 ∈ r.fields ∧ ∃ m ∈ named, m.1 ∈ p.1.names ∧ m.2 = p.2 := by
  unfold found
  simp only [List.mem_filterMap, Option.map_eq_some_iff, h.field?_eq_some_iff]
  constructor
  · rintro ⟨m, hm, f, ⟨hf, hk⟩, rfl⟩
    exact ⟨hf, m, hm, hk, rfl⟩
  · rintro ⟨hf, m, hm, hk, hv⟩
    exact ⟨m, hm, p.1, ⟨hf, hk⟩, by rw [hv]⟩

theorem mem_declared_iff (h : Once (r.fields.map Field.names) named) {p : Field ρ ε σ × ρ} :
    p ∈ r.declared named ↔ p.1 ∈ r.fields ∧ ∃ m ∈ named, m.1 ∈ p.1.names ∧ m.2 = p.2 := by
  unfold declared
  rw [List.mem_filterMap]
  constructor
  · rintro ⟨f, hf, hv⟩
    obtain ⟨v, hu, rfl⟩ := Option.map_eq_some_iff.mp hv
    exact ⟨hf, (h.under_eq_some_iff (List.mem_map_of_mem hf)).mp hu⟩
  · rintro ⟨hf, hm⟩
    exact ⟨p.1, hf, by rw [(h.under_eq_some_iff (List.mem_map_of_mem hf)).mpr hm]; rfl⟩

theorem fields_nodup (h : r.Orderless) : r.fields.Nodup := by
  refine (List.nodup_flatMap.mp h.nodup).2.imp fun {f g} hfg he => ?_
  exact hfg (mem_names_self f) (he ▸ mem_names_self f)

/-- The entries are for the declared fields, in some order. -/
theorem found_perm_declared (h : r.Orderless) (honce : Once (r.fields.map Field.names) named) :
    (r.found named).Perm (r.declared named) := by
  have hfound : (r.found named).Nodup := List.Nodup.of_map _ (h.foundNames_nodup_iff.mpr honce)
  have hdeclared : (r.declared named).Nodup := by
    refine h.fields_nodup.filterMap fun f g p hf hg => ?_
    obtain ⟨v, -, rfl⟩ := Option.map_eq_some_iff.mp hf
    obtain ⟨w, -, hw⟩ := Option.map_eq_some_iff.mp hg
    exact (congrArg Prod.fst hw).symm
  refine (List.perm_ext_iff_of_nodup hfound hdeclared).mpr fun p => ?_
  rw [h.mem_found_iff, mem_declared_iff honce]

theorem chain_found (h : r.Orderless) (honce : Once (r.fields.map Field.names) named) :
    chain ((r.found named).map step) = chain ((r.declared named).map step) := by
  refine chain_perm ((h.found_perm_declared honce).map _) ?_
  simp only [List.forall_mem_map]
  intro p hp q hq s
  obtain ⟨hpf, m, hm, hmk, hmv⟩ := h.mem_found_iff.mp hp
  obtain ⟨hqf, n, hn, hnk, hnv⟩ := h.mem_found_iff.mp hq
  by_cases hne : p.1 = q.1
  · have hmn : m = n := honce.eq (List.mem_map_of_mem hpf) hm hn hmk (hne ▸ hnk)
    have hpq : p = q := Prod.ext hne (by rw [← hmv, ← hnv, hmn])
    rw [hpq]
  · exact h.commute hpf hqf hne p.2 q.2 s

end Orderless

/-- Taking what is given for each field comes to reading the fields that something is given for, if
that is not missing where it must be there. -/
theorem chain_take_eq_some_iff (named : List (Text × ρ)) : ∀ (fields : List (Field ρ ε σ)) (s s' : σ),
    chain (fields.map fun f => f.take (under f.names named)) s = some s' ↔
      (∀ f ∈ fields, f.presence = .required → under f.names named ≠ none) ∧
      chain ((fields.filterMap fun f => (under f.names named).map fun v => (f, v)).map step) s =
        some s'
  | [], s, s' => by simp
  | f :: fields, s, s' => by
    have ih := fun t => chain_take_eq_some_iff named fields t s'
    rw [List.map_cons, chain_cons, List.forall_mem_cons]
    cases hu : under f.names named with
    | none =>
      rw [List.filterMap_cons_none (by rw [hu]; rfl), Field.take]
      by_cases hp : f.presence = .required
      · simp [hp]
      · rw [if_neg hp, Option.bind_some, ih]
        simp [hp]
    | some v =>
      rw [List.filterMap_cons_some (by rw [hu]; rfl), Field.take, List.map_cons, chain_cons, step]
      cases (f.read v s).toOption with
      | none => simp
      | some t =>
        rw [Option.bind_some, ih, Option.bind_some]
        simp

theorem finish_eq_ok_iff {problem : FieldProblem → ε} {seen : List Text} {s s' : σ} :
    r.finish problem seen s = .ok s' ↔
      (∀ f ∈ r.fields, f.presence = .required → f.name ∈ seen) ∧ s = s' := by
  have hmissing : r.firstMissing? seen = none ↔
      ∀ f ∈ r.fields, f.presence = .required → f.name ∈ seen := by
    unfold firstMissing?
    rw [List.find?_eq_none]
    refine forall₂_congr fun f _ => ?_
    simp
  rw [finish, ← hmissing]
  cases r.firstMissing? seen <;> simp

/-- **The order of the entries does not matter.** A record is read from entries iff their keys are
names, no field is given twice, and each field can be read from what is given for it; and it is what
the fields make in declared order. -/
theorem readNamed_eq_ok_iff (h : r.Orderless) {problem : FieldProblem → ε}
    {key : κ → Except ε Text} {skip : ρ → Except ε Unit} (hskip : ∀ v, skip v = .ok ())
    {entries : List (κ × ρ)} {s : σ} :
    r.readNamed problem key skip entries = .ok s ↔
      ∃ named, Keyed key entries named ∧ Once (r.fields.map Field.names) named ∧
        r.assemble named = some s := by
  have hread : r.readNamed problem key skip entries = .ok s ↔
      ∃ seen t, r.readEntries problem key skip entries [] r.blank = .ok (seen, t) ∧
        r.finish problem seen t = .ok s := by
    unfold readNamed
    cases r.readEntries problem key skip entries [] r.blank with
    | error e => simp
    | ok p =>
      obtain ⟨seen, t⟩ := p
      simp [and_assoc]
  have hgiven : ∀ named, Once (r.fields.map Field.names) named → ∀ f ∈ r.fields,
      (f.name ∈ (r.foundNames named).reverse ++ [] ↔ under f.names named ≠ none) := by
    intro named honce f hf
    rw [List.append_nil, List.mem_reverse, foundNames, List.mem_map, Option.ne_none_iff_exists']
    simp only [honce.under_eq_some_iff (List.mem_map_of_mem hf), h.mem_found_iff]
    constructor
    · rintro ⟨p, ⟨hpf, m, hm, hk, -⟩, hname⟩
      have hpf' := h.eq_of_mem_names hpf hf (Orderless.mem_names_self p.1)
        (hname ▸ Orderless.mem_names_self f)
      exact ⟨m.2, m, hm, hpf' ▸ hk, rfl⟩
    · rintro ⟨v, m, hm, hk, rfl⟩
      exact ⟨(f, m.2), ⟨hf, m, hm, hk, rfl⟩, rfl⟩
  simp only [hread, readEntries_eq_ok_iff hskip List.nodup_nil, finish_eq_ok_iff]
  constructor
  · rintro ⟨_, t, ⟨named, hkeyed, rfl, hnodup, hchain⟩, hrequired, rfl⟩
    rw [List.append_nil, List.nodup_reverse, h.foundNames_nodup_iff] at hnodup
    rw [h.chain_found hnodup] at hchain
    refine ⟨named, hkeyed, hnodup, (chain_take_eq_some_iff named _ _ _).mpr ⟨fun f hf hp => ?_, hchain⟩⟩
    exact (hgiven named hnodup f hf).mp (hrequired f hf hp)
  · rintro ⟨named, hkeyed, honce, hassemble⟩
    obtain ⟨hrequired, hchain⟩ := (chain_take_eq_some_iff named _ _ _).mp hassemble
    refine ⟨_, s, ⟨named, hkeyed, rfl, ?_, ?_⟩, fun f hf hp => ?_, rfl⟩
    · rw [List.append_nil, List.nodup_reverse, h.foundNames_nodup_iff]
      exact honce
    · rw [h.chain_found honce]
      exact hchain
    · exact (hgiven named honce f hf).mpr (hrequired f hf hp)

/-! ### Related inputs -/

section Related

variable {problem : FieldProblem → ε} {R : σ → σ → Prop} {V : Text → ρ → ρ → Prop}

/-- Fields read related records from values that are related under their names. -/
def Relates (fields : List (Field ρ ε σ)) (V : Text → ρ → ρ → Prop) (R : σ → σ → Prop) : Prop :=
  ∀ f ∈ fields, ∀ name ∈ f.names, ∀ v v' s s', V name v v' → R s s' →
    Agree R (f.read v s) (f.read v' s')

/-- Entries are read alike if their keys are those of the same fields and their values are related. -/
theorem readEntries_agree {key : κ → Except ε Text} {skip : ρ → Except ε Unit}
    (hfields : Relates r.fields V R)
    (hskip : ∀ name, r.field? name = none → ∀ v v', V name v v' → skip v = skip v')
    {entries entries' : List (κ × ρ)}
    (h : List.Forall₂ (fun e e' => (key e.1).map r.field? = (key e'.1).map r.field? ∧
      ∀ name, key e.1 = .ok name → V name e.2 e'.2) entries entries') :
    ∀ {seen : List Text} {s s' : σ}, R s s' →
      Agree (fun p p' => p.1 = p'.1 ∧ R p.2 p'.2)
        (r.readEntries problem key skip entries seen s)
        (r.readEntries problem key skip entries' seen s') := by
  induction h with
  | nil => exact fun hs => .ok ⟨rfl, hs⟩
  | @cons e e' rest rest' he _ ih =>
    intro seen s s' hs
    obtain ⟨k, v⟩ := e
    obtain ⟨k', v'⟩ := e'
    obtain ⟨hkey, hv⟩ := he
    dsimp only at hkey hv
    have hkeys : (∃ e, key k = .error e ∧ key k' = .error e) ∨
        ∃ name name', key k = .ok name ∧ key k' = .ok name' ∧ r.field? name' = r.field? name := by
      cases hk : key k <;> cases hk' : key k' <;> simp_all [Except.map]
    unfold readEntries
    rcases hkeys with ⟨e, hk, hk'⟩ | ⟨name, name', hk, hk', hfield⟩
    · rw [hk, hk']
      exact .error e
    · have hv := hv name hk
      rw [hk, hk']
      dsimp only
      rw [hfield]
      cases hf : r.field? name with
      | none =>
        dsimp only
        rw [hskip name hf v v' hv]
        cases skip v' with
        | error e => exact .error e
        | ok _ => exact ih hs
      | some f =>
        obtain ⟨hmem, hname⟩ := mem_of_field? hf
        dsimp only
        split
        · exact .error _
        · have hread := hfields f hmem name hname v v' s s' hv hs
          generalize f.read v s = y, f.read v' s' = y' at hread
          cases hread with
          | error e => exact .error e
          | ok hs => exact ih hs

theorem finish_agree {s s' : σ} (hs : R s s') (seen : List Text) :
    Agree R (r.finish problem seen s) (r.finish problem seen s') := by
  unfold finish
  split
  · exact .error _
  · exact .ok hs

/-- Items that stand in the order of the names are related under them. -/
inductive Aligned (V : Text → ρ → ρ → Prop) : List Text → List ρ → List ρ → Prop where
  | rest (names : List Text) (items : List ρ) : Aligned V names items items
  | cons {name : Text} {names : List Text} {v v' : ρ} {items items' : List ρ}
    (hv : V name v v') (h : Aligned V names items items') :
    Aligned V (name :: names) (v :: items) (v' :: items')

theorem readFields_agree (hrefl : ∀ name v, V name v v) {fields : List (Field ρ ε σ)} :
    Relates fields V R → ∀ {items items' : List ρ}, Aligned V (fields.map Field.name) items items' →
    ∀ {s s' : σ}, R s s' → Agree (fun p p' => R p.1 p'.1 ∧ p.2 = p'.2)
      (readFields problem fields items s) (readFields problem fields items' s') := by
  induction fields with
  | nil =>
    rintro - items _ (_ | _) s s' hs
    exact .ok ⟨hs, rfl⟩
  | cons f fields ih =>
    intro hfields items items' h s s' hs
    have hrest : Relates fields V R := fun g hg => hfields g (List.mem_cons_of_mem _ hg)
    have hstep : ∀ {v v' : ρ} {items items' : List ρ}, V f.name v v' →
        Aligned V (fields.map Field.name) items items' → Agree (fun p p' => R p.1 p'.1 ∧ p.2 = p'.2)
          (readFields problem (f :: fields) (v :: items) s)
          (readFields problem (f :: fields) (v' :: items') s') := by
      intro v v' items items' hv h
      have hread := hfields f List.mem_cons_self f.name List.mem_cons_self v v' s s' hv hs
      unfold readFields
      generalize f.read v s = y, f.read v' s' = y' at hread
      cases hread with
      | error e => exact .error e
      | ok hs => exact ih hrest h hs
    cases h with
    | cons hv h => exact hstep hv h
    | rest _ items =>
      cases items with
      | cons v items => exact hstep (hrefl _ v) (.rest _ _)
      | nil =>
        unfold readFields
        split
        · exact ih hrest (.rest _ _) hs
        · exact .error _

theorem readListed_agree (hrefl : ∀ name v, V name v v) (hfields : Relates r.fields V R)
    (hblank : R r.blank r.blank) {items items' : List ρ}
    (h : Aligned V (r.fields.map Field.name) items items') :
    Agree R (r.readListed problem items) (r.readListed problem items') := by
  have hread : Agree _ (readFields problem r.fields items r.blank)
      (readFields problem r.fields items' r.blank) := readFields_agree hrefl hfields h hblank
  unfold readListed
  generalize readFields problem r.fields items r.blank = y,
    readFields problem r.fields items' r.blank = y' at hread
  cases hread with
  | error e => exact .error e
  | @ok p p' hp =>
    obtain ⟨s, left⟩ := p
    obtain ⟨s', left'⟩ := p'
    obtain ⟨hs, hleft⟩ := hp
    cases hleft
    cases left with
    | nil => exact .ok hs
    | cons _ _ => exact .error _

end Related

end Record

end MangaPress
