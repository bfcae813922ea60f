/-
# What is given for the fields of a record

Entries under unknown keys are passed over, which can fail; a list gives the fields their values by
position. Either way a record is what its fields make, in declared order, of what is given for them.

Key theorems: `Record.readEntries_skip_eq_ok_iff`, `Record.readListed_eq_ok_iff`.
-/
import MangaPress.Proofs.Record

namespace MangaPress

variable {ρ ε σ κ : Type}

namespace Record

variable {r : Record ρ ε σ} {problem : FieldProblem → ε}

/-! ### Entries under unknown keys -/

theorem field?_eq_none_iff {key : Text} :
    r.field? key = none ↔ ∀ names ∈ r.fields.map Field.names, key ∉ names := by
  rw [field?, List.find?_eq_none, List.forall_mem_map]
  refine forall₂_congr fun f _ => ?_
  rw [Bool.or_eq_true, beq_iff_eq, List.contains_iff_mem, Field.names, List.mem_cons,
    eq_comm (a := f.name)]

/-- Entries are read iff those under unknown keys can be passed over and, these left aside, they are
read. -/
theorem readEntries_skip_eq_ok_iff {key : κ → Except ε Text} {skip : ρ → Except ε Unit} :
    ∀ {entries : List (κ × ρ)} {seen : List Text} {s : σ} {p : List Text × σ},
    r.readEntries problem key skip entries seen s = .ok p ↔
      (∀ e ∈ entries, ∀ name, key e.1 = .ok name → r.field? name = none → skip e.2 = .ok ()) ∧
        r.readEntries problem key (fun _ => .ok ()) entries seen s = .ok p
  | [], seen, s, p => by simp [readEntries]
  | (k, v) :: rest, seen, s, p => by
    have ih : ∀ seen s, r.readEntries problem key skip rest seen s = .ok p ↔ _ := fun seen s =>
      readEntries_skip_eq_ok_iff
    rw [List.forall_mem_cons, readEntries, readEntries]
    cases hk : key k with
    | error e => simp
    | ok name =>
      dsimp only
      cases hf : r.field? name with
      | none =>
        cases hv : skip v with
        | error e => simp [hf]
        | ok u => simp [ih]
      | some f =>
        dsimp only
        by_cases hseen : seen.contains f.name = true
        · rw [if_pos hseen, if_pos hseen]
          simp
        · rw [if_neg hseen, if_neg hseen]
          cases f.read v s with
          | error e => simp
          | ok t => simp [ih, hf]

/-! ### Fields by position -/

/-- Fields are read from a list iff there are not too many items and the fields that are left without
one may be missing. -/
theorem readFields_eq_ok_iff : ∀ {fields : List (Field ρ ε σ)} {items : List ρ} {s s' : σ},
    readFields problem fields items s = .ok (s', []) ↔
      ∃ missing, items.length + missing = fields.length ∧
        (∀ f ∈ fields.drop items.length, f.presence = .optional) ∧
        chain (List.zipWith Field.take fields (items.map some ++ List.replicate missing none)) s =
          some s'
  | [], [], s, s' => by simp [readFields]
  | [], _ :: _, s, s' => by simp [readFields]
  | f :: fields, [], s, s' => by
    have ih : readFields problem fields [] s = .ok (s', []) ↔ _ := readFields_eq_ok_iff
    rw [readFields]
    by_cases hf : f.presence = .optional
    · have htake : f.take none s = some s := by simp [Field.take, hf]
      rw [if_pos hf, ih]
      simp [hf, List.replicate_succ, chain_cons, htake]
    · simp [hf]
  | f :: fields, v :: items, s, s' => by
    have ih : ∀ t, readFields problem fields items t = .ok (s', []) ↔ _ := fun t =>
      readFields_eq_ok_iff
    rw [readFields]
    cases hv : f.read v s with
    | error e => simp [chain_cons, Field.take, hv, Except.toOption]
    | ok t =>
      dsimp only
      rw [ih]
      simp [chain_cons, Field.take, hv, Except.toOption, Nat.add_right_comm]

theorem readListed_eq_ok_iff {items : List ρ} {s : σ} :
    r.readListed problem items = .ok s ↔
      ∃ missing, items.length + missing = r.fields.length ∧
        (∀ f ∈ r.fields.drop items.length, f.presence = .optional) ∧
        chain (List.zipWith Field.take r.fields (items.map some ++ List.replicate missing none))
          r.blank = some s := by
  have hfields : readFields problem r.fields items r.blank = .ok (s, []) ↔ _ := readFields_eq_ok_iff
  rw [← hfields, readListed]
  cases readFields problem r.fields items r.blank with
  | error e => simp
  | ok p =>
    obtain ⟨t, left⟩ := p
    cases left <;> simp

end Record

end MangaPress
