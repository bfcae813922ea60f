/-
# What one field of a record is replaced by

The fields of a record are independent, so the one that entries are changed for can be read last: the
other fields make the same of the other entries, and what the record becomes is what this field makes
of the value that is given for it now, if one is. A value of which the field makes nothing but what a
blank record has is as good as none. The same goes for an item of a list that gives the fields their
values by position.

Key definition: `Record.Replaced`.
Key theorems: `Record.assemble_replaced`, `Record.readListed_replaced`.
-/
import MangaPress.Proofs.Record.Given

namespace MangaPress

variable {ρ ε σ : Type}

theorem chain_append (steps steps' : List (σ → Option σ)) (s : σ) :
    chain (steps ++ steps') s = (chain steps s).bind (chain steps') :=
  List.foldlM_append

/-- A step that commutes with others can be taken before them or after them. -/
theorem chain_commute {step : σ → Option σ} {steps : List (σ → Option σ)}
    (h : ∀ step' ∈ steps, ∀ s, (step s).bind step' = (step' s).bind step) (s : σ) :
    (chain steps s).bind step = (step s).bind (chain steps) := by
  induction steps generalizing s with
  | nil =>
    rw [chain_nil, Option.bind_some]
    cases step s <;> rfl
  | cons step' steps ih =>
    obtain ⟨hstep, hsteps⟩ := List.forall_mem_cons.mp h
    calc (chain (step' :: steps) s).bind step
        = (step' s).bind fun s => (chain steps s).bind step := by
          rw [chain_cons, Option.bind_assoc]
      _ = (step' s).bind fun s => (step s).bind (chain steps) := by
          simp only [ih hsteps]
      _ = ((step s).bind step').bind (chain steps) := by
          rw [← Option.bind_assoc, hstep s]
      _ = (step s).bind (chain (step' :: steps)) := by
          rw [Option.bind_assoc]
          rfl

/-- What is given for two fields can be taken in either order if their values can be read so. -/
theorem Field.Commutes.take {f g : Field ρ ε σ} (h : f.Commutes g) (o o' : Option ρ) (s : σ) :
    (f.take o s).bind (g.take o') = (g.take o' s).bind (f.take o) := by
  cases o with
  | none =>
    unfold Field.take
    by_cases hf : f.presence = .required
    · simp [hf]
    · simp [hf]
  | some v =>
    cases o' with
    | none =>
      unfold Field.take
      by_cases hg : g.presence = .required
      · simp [hg]
      · simp [hg]
    | some w => exact h v w s

namespace Record

theorem Once.perm {fields : List (List Text)} {named named' : List (Text × ρ)}
    (h : Once fields named) (hp : named.Perm named') : Once fields named' :=
  List.Perm.pairwise hp h fun hab names hn hba => hab names hn hba.symm

/-- The entries are the same but for those under the names; the value, if there is one, stands under
one of these. -/
structure Replaced (names : List Text) (o : Option ρ) (named named' : List (Text × ρ)) : Prop where
  others : named'.filter (fun m => !names.contains m.1) =
    named.filter fun m => !names.contains m.1
  value : (named'.filter fun m => names.contains m.1).map Prod.snd = o.toList

namespace Replaced

variable {names : List Text} {o : Option ρ} {named named' : List (Text × ρ)}

theorem under_eq (h : Replaced names o named named') : under names named' = o := by
  have hhead : under names named' =
      ((named'.filter fun m => names.contains m.1).map Prod.snd).head? := by
    rw [under, List.head?_map, List.head?_filter]
  rw [hhead, h.value]
  cases o <;> rfl

theorem under_of_disjoint (h : Replaced names o named named') {others : List Text}
    (hothers : others.Disjoint names) : under others named' = under others named := by
  have hfilter : ∀ l : List (Text × ρ),
      l.find? (fun m => others.contains m.1) =
        (l.filter fun m => !names.contains m.1).find? fun m => others.contains m.1 := by
    intro l
    rw [List.find?_filter]
    congr 1
    funext m
    by_cases hm : m.1 ∈ others
    · have hno : m.1 ∉ names := fun hmem => hothers hm hmem
      simp [hm, hno]
    · simp [hm]
  rw [under, under, hfilter named', h.others, ← hfilter named]

/-- No field is given twice where none was before. -/
theorem once {fields : List (List Text)} (h : Replaced names o named named')
    (honce : Once fields named)
    (hfields : ∀ other ∈ fields, other = names ∨ other.Disjoint names) : Once fields named' := by
  refine Once.perm ?_ (List.filter_append_perm (fun m => names.contains m.1) named')
  refine List.pairwise_append.mpr ⟨?_, ?_, fun a ha b hb other hother hab => ?_⟩
  · -- At most one entry is under the names.
    have hlength : (named'.filter fun m => names.contains m.1).length ≤ 1 := by
      have hvalue := congrArg List.length h.value
      rw [List.length_map] at hvalue
      rw [hvalue]
      cases o <;> simp
    generalize named'.filter (fun m => names.contains m.1) = found at hlength
    match found, hlength with
    | [], _ => exact .nil
    | [m], _ => exact List.pairwise_singleton _ m
  · rw [h.others]
    exact honce.sublist List.filter_sublist
  · obtain ⟨-, ha⟩ := List.mem_filter.mp ha
    obtain ⟨-, hb⟩ := List.mem_filter.mp hb
    have ha : a.1 ∈ names := List.contains_iff_mem.mp ha
    have hb : b.1 ∉ names := by simpa using hb
    rcases hfields other hother with rfl | hdisjoint
    · exact hb hab.2
    · exact hdisjoint hab.1 ha

end Replaced

/-- An entry under the names of a field is the only one where no field is given twice. -/
theorem Once.filter_eq {fields : List (List Text)} {names : List Text} {named : List (Text × ρ)}
    (h : Once fields named) (hnames : names ∈ fields) {m : Text × ρ} (hm : m ∈ named)
    (hk : m.1 ∈ names) : named.filter (fun m => names.contains m.1) = [m] := by
  have hmem : m ∈ named.filter fun m => names.contains m.1 :=
    List.mem_filter.mpr ⟨hm, List.contains_iff_mem.mpr hk⟩
  have hpairwise : Once fields (named.filter fun m => names.contains m.1) :=
    h.sublist List.filter_sublist
  have hall : ∀ n ∈ named.filter (fun m => names.contains m.1), n.1 ∈ names := fun n hn =>
    List.contains_iff_mem.mp (List.mem_filter.mp hn).2
  generalize named.filter (fun m => names.contains m.1) = found at hmem hpairwise hall
  match found, hmem, hpairwise, hall with
  | [n], hmem, _, _ => rw [List.mem_singleton.mp hmem]
  | n :: n' :: rest, _, hpairwise, hall =>
    have hno := (List.pairwise_cons.mp hpairwise).1 n' List.mem_cons_self names hnames
    exact absurd ⟨hall n List.mem_cons_self, hall n' (by simp)⟩ hno

variable {r : Record ρ ε σ} {f : Field ρ ε σ} {named : List (Text × ρ)} {s : σ}

theorem Orderless.disjoint_names (h : r.Orderless) {g : Field ρ ε σ} (hf : f ∈ r.fields)
    (hg : g ∈ r.fields) (hne : g ≠ f) : g.names.Disjoint f.names :=
  fun _ hkg hkf => hne (h.eq_of_mem_names hg hf hkg hkf)

/-- Steps that take what is given for fields of a record commute. -/
theorem Orderless.take_commute (h : r.Orderless) {given : Field ρ ε σ → Option ρ}
    {fields : List (Field ρ ε σ)} (hsub : ∀ g ∈ fields, g ∈ r.fields) :
    ∀ step ∈ fields.map (fun g => g.take (given g)), ∀ step' ∈ fields.map (fun g => g.take (given g)),
      ∀ s, (step s).bind step' = (step' s).bind step := by
  simp only [List.forall_mem_map]
  intro g hg g' hg' s
  by_cases hne : g = g'
  · rw [hne]
  · exact (h.commute (hsub g hg) (hsub g' hg') hne).take _ _ s

/-- **One field of a record can be read last.** What the other fields make of the other entries does
not change as the entries of one field are replaced, and what the record becomes is what this field
then makes of its value. A value that leaves a blank record blank leaves this one as it is. -/
theorem assemble_replaced (h : r.Orderless) (hf : f ∈ r.fields)
    (honce : Once (r.fields.map Field.names) named) (hs : r.assemble named = some s) :
    ∃ rest, (∀ o named', Replaced f.names o named named' →
        Once (r.fields.map Field.names) named' ∧ r.assemble named' = f.take o rest) ∧
      ∀ v, f.read v r.blank = .ok r.blank → f.read v rest = .ok rest := by
  obtain ⟨before, after, hfields⟩ := List.append_of_mem hf
  have hperm : r.fields.Perm ((before ++ after) ++ [f]) := by
    rw [hfields]
    exact List.perm_middle.trans (List.perm_append_singleton f _).symm
  have hother : ∀ g ∈ before ++ after, g ∈ r.fields ∧ g ≠ f := by
    have hnodup : (f :: (before ++ after)).Nodup :=
      (List.perm_middle.nodup_iff).mp (hfields ▸ h.fields_nodup)
    intro g hg
    refine ⟨hperm.mem_iff.mpr (List.mem_append_left _ hg), ?_⟩
    rintro rfl
    exact (List.nodup_cons.mp hnodup).1 hg
  -- The others, and then the field.
  have hlast : ∀ (given : Field ρ ε σ → Option ρ) (s : σ),
      chain (r.fields.map fun g => g.take (given g)) s =
        (chain ((before ++ after).map fun g => g.take (given g)) s).bind (f.take (given f)) := by
    intro given s
    rw [chain_perm (hperm.map _) (h.take_commute fun _ hg => hg), List.map_append, chain_append]
    congr 1
    funext t
    rw [List.map_singleton, chain_cons]
    cases f.take (given f) t <;> rfl
  obtain ⟨rest, hrest, -⟩ := Option.bind_eq_some_iff.mp ((hlast _ _).symm.trans hs)
  refine ⟨rest, fun o named' hreplaced => ⟨hreplaced.once honce ?_, ?_⟩, fun v hv => ?_⟩
  · rw [List.forall_mem_map]
    intro g hg
    by_cases hne : g = f
    · exact .inl (congrArg Field.names hne)
    · exact .inr (h.disjoint_names hf hg hne)
  · have hsame : (before ++ after).map (fun g => g.take (under g.names named')) =
        (before ++ after).map fun g => g.take (under g.names named) := by
      refine List.map_congr_left fun g hg => ?_
      obtain ⟨hmem, hne⟩ := hother g hg
      rw [hreplaced.under_of_disjoint (h.disjoint_names hf hmem hne)]
    rw [assemble, hlast, hsame, hrest, Option.bind_some, hreplaced.under_eq]
  · -- The value may as well be read first, into the blank record.
    have hcommute : ∀ step ∈ (before ++ after).map (fun g => g.take (under g.names named)),
        ∀ s, (f.take (some v) s).bind step = (step s).bind (f.take (some v)) := by
      simp only [List.forall_mem_map]
      intro g hg s
      obtain ⟨hmem, hne⟩ := hother g hg
      exact (h.commute hf hmem (Ne.symm hne)).take _ _ s
    have hread : f.take (some v) rest = some rest := by
      have hfirst := chain_commute hcommute r.blank
      rwa [hrest, Option.bind_some, show f.take (some v) r.blank = some r.blank by
        rw [Field.take, hv]; rfl, Option.bind_some, hrest] at hfirst
    exact eq_ok_of_toOption hread

/-- What is given for one field can be taken before or after what is given for others. -/
theorem Orderless.take_commute_zipWith (h : r.Orderless) (hf : f ∈ r.fields)
    {fields : List (Field ρ ε σ)} (hfields : ∀ g ∈ fields, g ∈ r.fields ∧ f ≠ g)
    (o : Option ρ) (given : List (Option ρ)) :
    ∀ step ∈ List.zipWith Field.take fields given, ∀ s,
      (f.take o s).bind step = (step s).bind (f.take o) := by
  intro step hstep s
  rw [← List.map_uncurry_zip_eq_zipWith] at hstep
  obtain ⟨⟨g, o'⟩, hg, rfl⟩ := List.mem_map.mp hstep
  obtain ⟨hmem, hne⟩ := hfields g (List.of_mem_zip hg).1
  exact (h.commute hf hmem hne).take _ _ s

/-- **The item for one field can be read last.** What the other fields make of the other items does
not change with it, and what the record becomes is what this field then makes of the item. -/
theorem readListed_replaced (h : r.Orderless) {problem : FieldProblem → ε} {before after : List ρ}
    {v : ρ} (hf : r.fields[before.length]? = some f)
    (hs : r.readListed problem (before ++ v :: after) = .ok s) :
    ∃ rest, ∀ w s', r.readListed problem (before ++ w :: after) = .ok s' ↔
      f.take (some w) rest = some s' := by
  obtain ⟨fs, gs, hfields, hfs⟩ :
      ∃ fs gs, r.fields = fs ++ f :: gs ∧ fs.length = before.length := by
    obtain ⟨hlt, rfl⟩ := List.getElem?_eq_some_iff.mp hf
    refine ⟨r.fields.take before.length, r.fields.drop (before.length + 1), ?_,
      List.length_take_of_le (Nat.le_of_lt hlt)⟩
    rw [List.getElem_cons_drop, List.take_append_drop]
  have hothers : ∀ g ∈ gs, g ∈ r.fields ∧ f ≠ g := by
    have hnodup : (fs ++ f :: gs).Nodup := hfields ▸ h.fields_nodup
    intro g hg
    refine ⟨hfields ▸ List.mem_append_right _ (List.mem_cons_of_mem _ hg), ?_⟩
    rintro rfl
    exact (List.nodup_cons.mp hnodup.of_append_right).1 hg
  obtain ⟨missing, hlength, hoptional, hchain⟩ := readListed_eq_ok_iff.mp hs
  let earlier := List.zipWith Field.take fs (before.map some)
  let later := List.zipWith Field.take gs (after.map some ++ List.replicate missing none)
  have hsteps : ∀ w, List.zipWith Field.take r.fields
      ((before ++ w :: after).map some ++ List.replicate missing none) =
        earlier ++ f.take (some w) :: later := by
    intro w
    rw [hfields, List.map_append, List.append_assoc, List.zipWith_append (by simpa using hfs)]
    rfl
  have hread : ∀ w s', r.readListed problem (before ++ w :: after) = .ok s' ↔
      chain (earlier ++ f.take (some w) :: later) r.blank = some s' := by
    intro w s'
    rw [readListed_eq_ok_iff, ← hsteps]
    simp only [List.length_append, List.length_cons] at hlength hoptional ⊢
    constructor
    · rintro ⟨missing', hlength', -, hchain'⟩
      obtain rfl : missing' = missing := by omega
      exact hchain'
    · exact fun hchain' => ⟨missing, hlength, hoptional, hchain'⟩
  have hlast : ∀ w, chain (earlier ++ f.take (some w) :: later) r.blank =
      ((chain earlier r.blank).bind (chain later)).bind (f.take (some w)) := by
    intro w
    rw [chain_append, Option.bind_assoc]
    congr 1
    funext t
    rw [chain_cons, chain_commute (h.take_commute_zipWith (hfields ▸ by simp) hothers _ _)]
  rw [hsteps, hlast] at hchain
  obtain ⟨rest, hrest, -⟩ := Option.bind_eq_some_iff.mp hchain
  refine ⟨rest, fun w s' => ?_⟩
  rw [hread, hlast, hrest, Option.bind_some]

end Record

end MangaPress
