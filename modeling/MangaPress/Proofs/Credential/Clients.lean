/-
# Clients that share the credential file

Any number of clients work on one credential file, each with an operation of its own, and their
steps come in any order. A client waits for the lock, reads the file, makes room for it and writes
it if there is something to write, and gives the lock back; a blank key is refused before the lock
is asked for. A step of a client is taken without looking at the others, but for the lock.

Since a step does not change what the rest of the operation comes to (`Operation.rest_work`), and
only the client with the lock is at work, the clients always stand as if those that got the lock had
done their operations one after the other (`Clients.InTurn`).

Key definitions: `Credential.Stage`, `Credential.Clients`, `Clients.step`, `Clients.interleave`,
`Operation.rest`, `Clients.Stands`, `Clients.InTurn`.
Key theorems: `Clients.InTurn.step`, `Clients.interleave_inTurn`, `Clients.exists_step`,
`Clients.interleave_serial`.
-/
import MangaPress.Proofs.Credential.Refinement
import Mathlib.Algebra.Order.BigOperators.Group.Finset
import Mathlib.Data.List.Nodup

namespace MangaPress.Credential

/-- Whether an operation needs the file; a blank key is refused without it. -/
def Operation.needsFile : Operation → Bool
  | .save key => (trimmed? key).isSome
  | .load | .clear => true

/-- How far a client is with its operation. -/
inductive Stage where
  | idle
  /-- It has the lock, and reads the file next. -/
  | reading
  /-- It has read the file, and makes room for one with these entries next. -/
  | opening (entries : Entries)
  /-- It writes these entries next. -/
  | writing (entries : Entries)
  /-- It gives the lock back next. -/
  | leaving (outcome : Outcome)
  | done (outcome : Outcome)
deriving Repr, DecidableEq

/-- The stages of a client that has the lock. -/
def Stage.AtWork : Stage → Prop
  | .idle | .done _ => False
  | .reading | .opening _ | .writing _ | .leaving _ => True

/-- The most steps from a stage to the end. -/
def Stage.toGo : Stage → Nat
  | .idle => 5
  | .reading => 4
  | .opening _ => 3
  | .writing _ => 2
  | .leaving _ => 1
  | .done _ => 0

namespace Operation

/-- What a client goes on to with what it has read. -/
def afterReading (read : Except CredentialError Entries) : Operation → Stage
  | .load => .leaving (read.map fun entries => (entries.lookup entryName).bind trimmed?)
  | .save key =>
    match read with
    | .error e => .leaving (.error e)
    | .ok entries => .opening (entries.set entryName (Text.trim key))
  | .clear =>
    match read with
    | .error e => .leaving (.error e)
    | .ok entries =>
      if (entries.lookup entryName).isSome then .opening (entries.remove entryName)
      else .leaving (.ok none)

/-- One step of a client that has the lock and does not give it back yet. -/
def work (files : FileTree) (path : Path) (op : Operation) : Stage → FileTree × Stage
  | .reading => (files, op.afterReading (readEntries files path))
  | .opening entries =>
    match files.createParents path with
    | (files, .error e) => (files, .leaving (.error (.files e)))
    | (files, .ok _) => (files, .writing entries)
  | .writing entries =>
    let (files, written) := files.write path (Text.encode entries.write)
    (files, .leaving ((written.mapError .files).map fun _ => none))
  | stage => (files, stage)

/-- What the rest of an operation does from a stage on, if nobody else is at work. -/
def rest (files : FileTree) (path : Path) (op : Operation) : Stage → FileTree × Outcome
  | .idle | .reading => op.perform files path
  | .opening entries =>
    let (files, done) := writeEntries files path entries
    (files, done.map fun _ => none)
  | .writing entries =>
    let (files, written) := files.write path (Text.encode entries.write)
    (files, (written.mapError .files).map fun _ => none)
  | .leaving outcome | .done outcome => (files, outcome)

end Operation

/-- Clients at work on one file. -/
structure Clients (ι : Type) where
  files : FileTree
  /-- The client that has the lock. -/
  holder : Option ι := none
  /-- The clients that got the lock, in order. -/
  turns : List ι := []
  stage : ι → Stage := fun _ => .idle

namespace Clients

variable {ι : Type} [DecidableEq ι]

/-- Brings a client to a stage. -/
def move (s : Clients ι) (i : ι) (stage : Stage) : Clients ι :=
  { s with stage := Function.update s.stage i stage }

/-- The next step of a client, if it can take one. -/
def step (ops : ι → Operation) (path : Path) (s : Clients ι) (i : ι) : Option (Clients ι) :=
  match s.stage i with
  | .idle =>
    if !(ops i).needsFile then some (s.move i (.done (.error .emptyKey)))
    else if s.holder.isNone then
      some ({ s with holder := some i, turns := s.turns ++ [i] }.move i .reading)
    else none
  | .leaving outcome => some ({ s with holder := none }.move i (.done outcome))
  | .done _ => none
  | stage =>
    let (files, stage) := (ops i).work s.files path stage
    some ({ s with files }.move i stage)

/-- Steps of clients, in the order in which they are named. -/
def interleave (ops : ι → Operation) (path : Path) (s : Clients ι) : List ι → Option (Clients ι)
  | [] => some s
  | i :: schedule => (s.step ops path i).bind fun s => s.interleave ops path schedule

end Clients

/-! ### The rest of an operation -/

namespace Operation

variable {files : FileTree} {path : Path} {op : Operation}

/-- An operation that is refused changes nothing, wherever it is done. -/
theorem perform_of_not_needsFile (h : op.needsFile = false) :
    op.perform files path = (files, .error .emptyKey) := by
  cases op with
  | load => cases h
  | clear => cases h
  | save key =>
    have hnone : trimmed? key = none := by simpa [needsFile] using h
    rw [perform, Credential.save, hnone]
    rfl

/-- Reading the file does not change what the operation comes to. -/
theorem rest_afterReading (h : op.needsFile = true) :
    op.rest files path (op.afterReading (readEntries files path)) = op.perform files path := by
  cases op with
  | load => rfl
  | save key =>
    obtain ⟨stored, hstored⟩ := Option.isSome_iff_exists.mp h
    obtain ⟨rfl, -⟩ := trimmed?_eq_some_iff.mp hstored
    rw [perform, Credential.save, hstored]
    cases hr : readEntries files path with
    | error e => rfl
    | ok entries => rfl
  | clear =>
    rw [perform, Credential.clear]
    cases hr : readEntries files path with
    | error e => rfl
    | ok entries =>
      dsimp only [afterReading]
      split <;> rfl

/-- **A step at work leaves the rest as it was.** -/
theorem rest_work (h : op.needsFile = true) (stage : Stage) :
    op.rest (op.work files path stage).1 path (op.work files path stage).2 =
      op.rest files path stage := by
  cases stage with
  | reading => exact rest_afterReading h
  | opening entries =>
    rw [work, rest, writeEntries]
    cases files.createParents path with
    | mk files' created =>
      cases created with
      | error e => rfl
      | ok u => rfl
  | writing entries => rfl
  | _ => rfl

/-- From reading it goes on to writing or out. -/
theorem afterReading_cases (op : Operation) (read : Except CredentialError Entries) :
    (∃ entries, op.afterReading read = .opening entries) ∨
      ∃ outcome, op.afterReading read = .leaving outcome := by
  cases op with
  | load => exact .inr ⟨_, rfl⟩
  | save key =>
    cases read with
    | error e => exact .inr ⟨_, rfl⟩
    | ok entries => exact .inl ⟨_, rfl⟩
  | clear =>
    cases read with
    | error e => exact .inr ⟨_, rfl⟩
    | ok entries =>
      dsimp only [afterReading]
      split
      · exact .inl ⟨_, rfl⟩
      · exact .inr ⟨_, rfl⟩

theorem atWork_work {stage : Stage} (h : stage.AtWork) : (op.work files path stage).2.AtWork := by
  cases stage with
  | idle => exact h.elim
  | done outcome => exact h.elim
  | leaving outcome => trivial
  | reading =>
    rcases op.afterReading_cases (readEntries files path) with ⟨entries, ho⟩ | ⟨outcome, ho⟩
    · rw [work, ho]
      trivial
    · rw [work, ho]
      trivial
  | opening entries =>
    rw [work]
    split <;> trivial
  | writing entries =>
    rw [work]
    split <;> trivial

theorem toGo_work {stage : Stage} (h : stage.AtWork) (hstay : ∀ outcome, stage ≠ .leaving outcome) :
    (op.work files path stage).2.toGo < stage.toGo := by
  cases stage with
  | idle => exact h.elim
  | done outcome => exact h.elim
  | leaving outcome => exact absurd rfl (hstay outcome)
  | reading =>
    rcases op.afterReading_cases (readEntries files path) with ⟨entries, ho⟩ | ⟨outcome, ho⟩
    · rw [work, ho]
      simp [Stage.toGo]
    · rw [work, ho]
      simp [Stage.toGo]
  | opening entries =>
    rw [work]
    split <;> simp [Stage.toGo]
  | writing entries =>
    rw [work]
    split <;> simp [Stage.toGo]

end Operation

/-! ### As if in turn -/

variable {files : FileTree} {path : Path}

namespace Clients

variable {ι : Type} {ops : ι → Operation} {s s' : Clients ι} {i j : ι}

/-- What the client's operation comes to in the end. -/
def outcome (ops : ι → Operation) (path : Path) (s : Clients ι) (i : ι) : Outcome :=
  ((ops i).rest s.files path (s.stage i)).2

/-- The files as the client at work will leave them. -/
def settled (ops : ι → Operation) (path : Path) (s : Clients ι) : FileTree :=
  match s.holder with
  | none => s.files
  | some i => ((ops i).rest s.files path (s.stage i)).1

/-- The stage of a client fits its operation, whether it got the lock and whether it has it now. -/
structure Stands (op : Operation) (got holds : Prop) (stage : Stage) : Prop where
  got_iff : got ↔ op.needsFile = true ∧ stage ≠ .idle
  refused : op.needsFile = false → stage = .idle ∨ stage = .done (.error .emptyKey)
  /-- Only the client with the lock is at work. -/
  atWork_iff : stage.AtWork ↔ holds

/-- The clients stand as if those that got the lock had done their operations in turn, beginning
with these files. -/
structure InTurn (ops : ι → Operation) (path : Path) (files : FileTree) (s : Clients ι) : Prop where
  nodup : s.turns.Nodup
  stands : ∀ i, Stands (ops i) (i ∈ s.turns) (s.holder = some i) (s.stage i)
  run_eq : run files path (s.turns.map ops) =
    (s.settled ops path, s.turns.map (s.outcome ops path))

theorem inTurn_start (ops : ι → Operation) (path : Path) (files : FileTree) :
    InTurn ops path files { files } where
  nodup := List.nodup_nil
  stands i := ⟨by simp, fun _ => .inl rfl, by simp [Stage.AtWork]⟩
  run_eq := rfl

theorem ne_idle {stage : Stage} (h : stage.AtWork) : stage ≠ .idle := by
  rintro rfl
  exact h

theorem outcome_of_done {o : Outcome} (h : s.stage i = .done o) : s.outcome ops path i = o := by
  rw [outcome, h]
  rfl

namespace InTurn

theorem mem_turns (h : InTurn ops path files s) (i : ι) :
    i ∈ s.turns ↔ (ops i).needsFile = true ∧ s.stage i ≠ .idle :=
  (h.stands i).got_iff

theorem atWork (h : InTurn ops path files s) (i : ι) : (s.stage i).AtWork ↔ s.holder = some i :=
  (h.stands i).atWork_iff

/-- A client that got the lock and does not have it now is done. -/
theorem exists_done (h : InTurn ops path files s) (hj : j ∈ s.turns) (hn : s.holder ≠ some j) :
    ∃ o, s.stage j = .done o := by
  have hidle := ((h.mem_turns j).mp hj).2
  have hwork := mt (h.atWork j).mp hn
  cases hs : s.stage j with
  | done o => exact ⟨o, rfl⟩
  | idle => exact absurd hs hidle
  | _ =>
    rw [hs] at hwork
    exact absurd trivial hwork

/-- The outcome of a client without the lock does not depend on what happens to the files. -/
theorem outcome_eq (h : InTurn ops path files s) (hj : j ∈ s.turns) (hn : s.holder ≠ some j)
    (hs : s'.stage j = s.stage j) : s'.outcome ops path j = s.outcome ops path j := by
  obtain ⟨o, ho⟩ := h.exists_done hj hn
  rw [outcome_of_done ho, outcome_of_done (hs.trans ho)]

theorem needsFile_of_atWork (h : InTurn ops path files s) (hi : (s.stage i).AtWork) :
    (ops i).needsFile = true := by
  by_contra hn
  rcases (h.stands i).refused (Bool.eq_false_iff.mpr hn) with hs | hs <;>
    (rw [hs] at hi; exact hi)

theorem not_mem_of_idle (h : InTurn ops path files s) (hi : s.stage i = .idle) : i ∉ s.turns :=
  fun hmem => ((h.mem_turns i).mp hmem).2 hi

/-- Where everyone is done, the lock is free. -/
theorem holder_of_done (h : InTurn ops path files s) {result : ι → Outcome}
    (hdone : ∀ i, s.stage i = .done (result i)) : s.holder = none := by
  cases hh : s.holder with
  | none => rfl
  | some i =>
    have hwork := (h.atWork i).mpr hh
    rw [hdone i] at hwork
    exact hwork.elim

end InTurn

/-- Refused operations change nothing about a run, wherever they are put. -/
theorem run_of_run_filter {result : ι → Outcome}
    (hrefused : ∀ i, (ops i).needsFile = false → result i = .error .emptyKey) :
    ∀ {serial : List ι} {files files' : FileTree},
    run files path ((serial.filter fun i => (ops i).needsFile).map ops) =
      (files', (serial.filter fun i => (ops i).needsFile).map result) →
    run files path (serial.map ops) = (files', serial.map result)
  | [], _, _, h => h
  | i :: serial, files, files', h => by
    rw [List.filter_cons] at h
    rw [List.map_cons, run_cons]
    cases hn : (ops i).needsFile with
    | false =>
      rw [hn, if_neg Bool.false_ne_true] at h
      rw [Operation.perform_of_not_needsFile hn, run_of_run_filter hrefused h, ← hrefused i hn]
      rfl
    | true =>
      rw [hn, if_pos rfl, List.map_cons, run_cons, List.map_cons] at h
      obtain ⟨hfiles, hresults⟩ := Prod.mk.inj h
      obtain ⟨hhead, htail⟩ := List.cons.inj hresults
      rw [run_of_run_filter hrefused (Prod.ext hfiles htail), hhead]
      rfl

/-! ### The steps of a client -/

variable [DecidableEq ι]

@[simp]
theorem stage_move_self (s : Clients ι) (i : ι) (stage : Stage) :
    (s.move i stage).stage i = stage := by
  simp [move]

theorem stage_move_of_ne (s : Clients ι) (h : j ≠ i) (stage : Stage) :
    (s.move i stage).stage j = s.stage j := by
  simp [move, h]

@[simp]
theorem files_move (s : Clients ι) (i : ι) (stage : Stage) : (s.move i stage).files = s.files := rfl

@[simp]
theorem holder_move (s : Clients ι) (i : ι) (stage : Stage) : (s.move i stage).holder = s.holder := rfl

@[simp]
theorem turns_move (s : Clients ι) (i : ι) (stage : Stage) : (s.move i stage).turns = s.turns := rfl

/-- What a step can be: a refusal, taking the lock, a step at work, or giving the lock back. -/
theorem step_cases (h : s.step ops path i = some s') :
    (s.stage i = .idle ∧ (ops i).needsFile = false ∧ s' = s.move i (.done (.error .emptyKey))) ∨
    (s.stage i = .idle ∧ (ops i).needsFile = true ∧ s.holder = none ∧
      s' = { s with holder := some i, turns := s.turns ++ [i] }.move i .reading) ∨
    ((s.stage i).AtWork ∧ (∀ outcome, s.stage i ≠ .leaving outcome) ∧ s' = { s with
      files := ((ops i).work s.files path (s.stage i)).1 }.move i
        ((ops i).work s.files path (s.stage i)).2) ∨
    ∃ outcome, s.stage i = .leaving outcome ∧
      s' = { s with holder := none }.move i (.done outcome) := by
  unfold step at h
  cases hs : s.stage i with
  | idle =>
    rw [hs] at h
    dsimp only at h
    cases hn : (ops i).needsFile with
    | false =>
      rw [hn] at h
      cases h
      exact .inl ⟨rfl, rfl, rfl⟩
    | true =>
      rw [hn] at h
      cases hh : s.holder with
      | none =>
        rw [hh] at h
        cases h
        exact .inr (.inl ⟨rfl, rfl, rfl, rfl⟩)
      | some j =>
        rw [hh] at h
        cases h
  | done outcome =>
    rw [hs] at h
    cases h
  | leaving outcome =>
    rw [hs] at h
    cases h
    exact .inr (.inr (.inr ⟨outcome, rfl, rfl⟩))
  | _ =>
    rw [hs] at h
    cases h
    exact .inr (.inr (.inl ⟨trivial, nofun, rfl⟩))

/-- Where a client comes to a stage, only that stage has to be looked at. -/
theorem stands_move {stage : Stage}
    (hothers : ∀ k ≠ i, Stands (ops k) (k ∈ s.turns) (s.holder = some k) (s.stage k))
    (hi : Stands (ops i) (i ∈ s.turns) (s.holder = some i) stage) (k : ι) :
    Stands (ops k) (k ∈ (s.move i stage).turns) ((s.move i stage).holder = some k)
      ((s.move i stage).stage k) := by
  rcases eq_or_ne k i with rfl | hk
  · rw [stage_move_self]
    exact hi
  · rw [stage_move_of_ne s hk]
    exact hothers k hk

namespace InTurn

/-- A refusal does not touch those that got the lock. -/
theorem refuse (h : InTurn ops path files s) (hi : s.stage i = .idle)
    (hn : (ops i).needsFile = false) :
    InTurn ops path files (s.move i (.done (.error .emptyKey))) where
  nodup := h.nodup
  stands := by
    have hwork := h.atWork i
    rw [hi] at hwork
    exact stands_move (fun k _ => h.stands k)
      ⟨by simp [hn, h.not_mem_of_idle hi], fun _ => .inr rfl, hwork⟩
  run_eq := by
    have hother : ∀ k ∈ s.turns, (s.move i (.done (.error .emptyKey))).stage k = s.stage k :=
      fun k hk => stage_move_of_ne s (ne_of_mem_of_not_mem hk (h.not_mem_of_idle hi)) _
    have hsettled : (s.move i (.done (.error .emptyKey))).settled ops path = s.settled ops path := by
      unfold settled
      rw [holder_move]
      cases hh : s.holder with
      | none => rfl
      | some j =>
        have hj : j ≠ i := by
          rintro rfl
          have hwork := (h.atWork j).mpr hh
          rw [hi] at hwork
          exact hwork
        dsimp only
        rw [stage_move_of_ne s hj, files_move]
    rw [turns_move, h.run_eq, hsettled]
    refine congrArg (Prod.mk _) (List.map_congr_left fun k hk => ?_)
    rw [outcome, outcome, hother k hk, files_move]

/-- The client that takes the lock comes last in turn, and has all of its operation before it. -/
theorem acquire (h : InTurn ops path files s) (hi : s.stage i = .idle)
    (hn : (ops i).needsFile = true) (hfree : s.holder = none) : InTurn ops path files
      ({ s with holder := some i, turns := s.turns ++ [i] }.move i .reading) where
  nodup := by
    exact h.nodup.append (List.nodup_singleton i)
      (List.disjoint_singleton.mpr (h.not_mem_of_idle hi))
  stands := by
    refine stands_move (fun k hk => ⟨?_, (h.stands k).refused, ?_⟩)
      ⟨by simp [hn], by simp [hn], by simp [Stage.AtWork]⟩
    · rw [List.mem_append, List.mem_singleton, ← h.mem_turns k]
      exact or_iff_left hk
    · rw [h.atWork k, hfree]
      simp [hk.symm]
  run_eq := by
    have hfiles : s.settled ops path = s.files := by rw [settled, hfree]
    rw [turns_move, List.map_append, List.map_append, List.map_singleton, run_concat, h.run_eq, hfiles]
    refine congrArg₂ Prod.mk ?_ (congrArg₂ (· ++ ·) (List.map_congr_left fun k hk => ?_) ?_)
    · simp [settled, Operation.rest]
    · have hki : k ≠ i := ne_of_mem_of_not_mem hk (h.not_mem_of_idle hi)
      exact (h.outcome_eq hk (by simp [hfree]) (stage_move_of_ne _ hki _)).symm
    · simp [outcome, Operation.rest]

/-- A step at work changes neither what the client's operation comes to nor anything for the others.
-/
theorem work (h : InTurn ops path files s) (hi : (s.stage i).AtWork) : InTurn ops path files
    ({ s with files := ((ops i).work s.files path (s.stage i)).1 }.move i
      ((ops i).work s.files path (s.stage i)).2) where
  nodup := h.nodup
  stands := by
    have hneeds := h.needsFile_of_atWork hi
    have hwork : ((ops i).work s.files path (s.stage i)).2.AtWork := Operation.atWork_work hi
    refine stands_move (fun k _ => h.stands k) ⟨?_, by simp [hneeds], ?_⟩
    · exact iff_of_true ((h.mem_turns i).mpr ⟨hneeds, ne_idle hi⟩) ⟨hneeds, ne_idle hwork⟩
    · exact iff_of_true hwork ((h.atWork i).mp hi)
  run_eq := by
    have hholder := (h.atWork i).mp hi
    have hrest : (ops i).rest ((ops i).work s.files path (s.stage i)).1 path
        ((ops i).work s.files path (s.stage i)).2 = (ops i).rest s.files path (s.stage i) :=
      Operation.rest_work (h.needsFile_of_atWork hi) (s.stage i)
    rw [turns_move, h.run_eq]
    refine congrArg₂ Prod.mk ?_ (List.map_congr_left fun k hk => ?_)
    · simp only [settled, holder_move, hholder, stage_move_self, files_move, hrest]
    · rcases eq_or_ne k i with rfl | hki
      · simp only [outcome, stage_move_self, files_move, hrest]
      · have hother : s.holder ≠ some k := by simpa [hholder] using hki.symm
        refine (h.outcome_eq hk hother ?_).symm
        exact stage_move_of_ne _ hki _

/-- Who gives the lock back leaves the files as they are, and keeps the outcome. -/
theorem release (h : InTurn ops path files s) {o : Outcome} (hi : s.stage i = .leaving o) :
    InTurn ops path files ({ s with holder := none }.move i (.done o)) := by
  have hwork : (s.stage i).AtWork := by
    rw [hi]
    trivial
  have hholder := (h.atWork i).mp hwork
  have hneeds := h.needsFile_of_atWork hwork
  refine ⟨h.nodup, stands_move (fun k hk => ?_) ⟨?_, by simp [hneeds], iff_of_false id nofun⟩, ?_⟩
  · refine ⟨h.mem_turns k, (h.stands k).refused, ?_⟩
    rw [h.atWork k, hholder]
    simp [hk.symm]
  · exact iff_of_true ((h.mem_turns i).mpr ⟨hneeds, ne_idle hwork⟩) ⟨hneeds, nofun⟩
  · rw [turns_move, h.run_eq]
    refine congrArg₂ Prod.mk ?_ (List.map_congr_left fun k hk => ?_)
    · simp only [settled, holder_move, hholder, hi, files_move, Operation.rest]
    · rcases eq_or_ne k i with rfl | hki
      · simp only [outcome, stage_move_self, hi, Operation.rest]
      · have hother : s.holder ≠ some k := by simpa [hholder] using hki.symm
        exact (h.outcome_eq hk hother (stage_move_of_ne _ hki _)).symm

/-- **Step**: whichever client goes on, all stand as if in turn. -/
theorem step (h : InTurn ops path files s) (hs : s.step ops path i = some s') :
    InTurn ops path files s' := by
  rcases step_cases hs with ⟨hi, hn, rfl⟩ | ⟨hi, hn, hfree, rfl⟩ | ⟨hi, -, rfl⟩ | ⟨o, hi, rfl⟩
  · exact h.refuse hi hn
  · exact h.acquire hi hn hfree
  · exact h.work hi
  · exact h.release hi

end InTurn

/-! ### Runs -/

/-- **Run**: by induction on the schedule. -/
theorem interleave_inTurn : ∀ {schedule : List ι} {s s' : Clients ι}, InTurn ops path files s →
    s.interleave ops path schedule = some s' → InTurn ops path files s'
  | [], _, _, h, hs => Option.some.inj hs ▸ h
  | _ :: _, _, _, h, hs => by
    obtain ⟨next, hstep, hrest⟩ := Option.bind_eq_some_iff.mp hs
    exact interleave_inTurn (h.step hstep) hrest

/-! ### Every client comes to its end -/

/-- Each step brings its client nearer to the end, and leaves the others where they are. -/
theorem toGo_step (h : s.step ops path i = some s') :
    (s'.stage i).toGo < (s.stage i).toGo ∧ ∀ j ≠ i, s'.stage j = s.stage j := by
  rcases step_cases h with ⟨hi, -, rfl⟩ | ⟨hi, -, -, rfl⟩ | ⟨hi, hstay, rfl⟩ | ⟨o, hi, rfl⟩
  · exact ⟨by simp [hi, Stage.toGo], fun j hj => stage_move_of_ne _ hj _⟩
  · exact ⟨by simp [hi, Stage.toGo], fun j hj => stage_move_of_ne _ hj _⟩
  · refine ⟨?_, fun j hj => stage_move_of_ne _ hj _⟩
    rw [stage_move_self]
    exact Operation.toGo_work hi hstay
  · exact ⟨by simp [hi, Stage.toGo], fun j hj => stage_move_of_ne _ hj _⟩

theorem exists_step_of_atWork (hi : (s.stage i).AtWork) : ∃ s', s.step ops path i = some s' := by
  unfold step
  cases hs : s.stage i with
  | idle => exact absurd hs (ne_idle hi)
  | done o =>
    rw [hs] at hi
    exact hi.elim
  | _ => exact ⟨_, rfl⟩

/-- As long as one is not done, one can go on: the client with the lock, or else any. -/
theorem InTurn.exists_step (h : InTurn ops path files s) (hi : ∀ o, s.stage i ≠ .done o) :
    ∃ j s', s.step ops path j = some s' := by
  cases hh : s.holder with
  | some j => exact ⟨j, exists_step_of_atWork ((h.atWork j).mpr hh)⟩
  | none =>
    refine ⟨i, ?_⟩
    unfold Clients.step
    cases hs : s.stage i with
    | done o => exact absurd hs (hi o)
    | idle =>
      dsimp only
      rw [hh]
      split
      · exact ⟨_, rfl⟩
      · exact ⟨_, rfl⟩
    | _ => exact ⟨_, rfl⟩

/-- **No client is held up for ever.** However far they are, clients can be brought to where all of
them are done. -/
theorem InTurn.exists_completion [Fintype ι] (h : InTurn ops path files s) :
    ∃ schedule s', s.interleave ops path schedule = some s' ∧ ∀ i, ∃ o, s'.stage i = .done o := by
  induction hn : ∑ i, (s.stage i).toGo using Nat.strong_induction_on generalizing s with
  | _ n ih =>
    by_cases hdone : ∀ i, ∃ o, s.stage i = .done o
    · exact ⟨[], s, rfl, hdone⟩
    · rw [not_forall] at hdone
      obtain ⟨i, hi⟩ := hdone
      obtain ⟨j, next, hstep⟩ := h.exists_step (not_exists.mp hi)
      obtain ⟨hless, hothers⟩ := toGo_step hstep
      have hsum : ∑ i, (next.stage i).toGo < ∑ i, (s.stage i).toGo := by
        refine Finset.sum_lt_sum (fun k _ => ?_) ⟨j, Finset.mem_univ j, hless⟩
        rcases eq_or_ne k j with rfl | hk
        · exact hless.le
        · rw [hothers k hk]
      obtain ⟨schedule, last, hrun, hlast⟩ := ih _ (hn ▸ hsum) (h.step hstep) rfl
      exact ⟨j :: schedule, last, by rw [interleave, hstep, Option.bind_some, hrun], hlast⟩

/-! ### The order of the lock -/

/-- **Interleaved operations are done in turn.** However the steps of the clients are interleaved,
in the end every client has the outcome, and the files are as they are, that the operations have
when they are done one after the other in the order in which the lock was taken; refused operations,
which do not take it, can stand anywhere in that order. So a file of entries ends as the map that
all operations in turn make of its entries: nothing that was stored or removed is lost, and all
entries but the key's stay. -/
theorem interleave_serial (ops : ι → Operation) (path : Path) (files : FileTree)
    {schedule : List ι} {s : Clients ι} {result : ι → Outcome}
    (hrun : interleave ops path { files } schedule = some s)
    (hdone : ∀ i, s.stage i = .done (result i)) :
    (s.turns.Nodup ∧ ∀ i, i ∈ s.turns ↔ (ops i).needsFile = true) ∧
    (∀ serial : List ι, serial.filter (fun i => (ops i).needsFile) = s.turns →
      run files path (serial.map ops) = (s.files, serial.map result)) ∧
    ∀ m, Reads files path m → (∃ content, files.bytesAt path = .ok content) ∨ files.Vacant path →
      Reads s.files path (runOnContents m (s.turns.map ops)).1 ∧
      ∀ name ≠ entryName, (runOnContents m (s.turns.map ops)).1 name = m name := by
  have h := interleave_inTurn (inTurn_start ops path files) hrun
  have hturns : run files path (s.turns.map ops) = (s.files, s.turns.map result) := by
    rw [h.run_eq, settled, h.holder_of_done hdone]
    exact congrArg (Prod.mk _) (List.map_congr_left fun i _ => outcome_of_done (hdone i))
  refine ⟨⟨h.nodup, fun i => ?_⟩, fun serial hserial => ?_, fun m hm hplace => ?_⟩
  · rw [h.mem_turns, hdone i]
    exact and_iff_left nofun
  · refine run_of_run_filter (fun i hn => ?_) (hserial ▸ hturns)
    rcases (h.stands i).refused hn with hs | hs
    · rw [hdone i] at hs
      cases hs
    · rw [hdone i] at hs
      exact Stage.done.inj hs
  · have hwritable : Writable files path := by
      rcases hplace with ⟨content, hc⟩ | hv
      · exact .of_bytesAt hc
      · exact .of_vacant hv
    have hfine : ∀ e, .error (.files e) ∉ (run files path (s.turns.map ops)).2 :=
      run_of_writable hm hwritable
    have hend := (run_refines hm hfine).2
    rw [hturns] at hend
    exact ⟨hend, fun name hname => runOnContents_of_ne hname _ m⟩

/-- Two clients store a key, one loads it, and one has a blank one. -/
def fourClients : Fin 4 → Operation
  | 0 => .save " red "
  | 1 => .save "blue"
  | 2 => .load
  | 3 => .save " "

/-- What their operations come to. -/
def fourResults : Fin 4 → Outcome
  | 0 | 1 => .ok none
  | 2 => .ok (some "blue")
  | 3 => .error .emptyKey

/-- The blank key is refused while another client is at work; what counts is who took the lock last.
-/
theorem interleave_fourClients :
    ∃ s, interleave fourClients "/key.json" { files := {} }
        [1, 3, 1, 1, 1, 1, 2, 2, 2, 0, 0, 0, 0, 0] = some s ∧ s.turns = [1, 2, 0] ∧
      run {} "/key.json" ([1, 2, 3, 0].map fourClients) =
        (s.files, [1, 2, 3, 0].map fourResults) := by
  have hseen : (interleave fourClients "/key.json" { files := {} }
      [1, 3, 1, 1, 1, 1, 2, 2, 2, 0, 0, 0, 0, 0]).map (fun s => (s.turns, s.stage 0, s.stage 1,
        s.stage 2, s.stage 3)) =
      some ([1, 2, 0], .done (fourResults 0), .done (fourResults 1), .done (fourResults 2),
        .done (fourResults 3)) := by
    decide +kernel
  obtain ⟨s, hrun, hs⟩ := Option.map_eq_some_iff.mp hseen
  simp only [Prod.mk.injEq] at hs
  obtain ⟨hturns, h0, h1, h2, h3⟩ := hs
  have hdone : ∀ i, s.stage i = .done (fourResults i)
    | 0 => h0
    | 1 => h1
    | 2 => h2
    | 3 => h3
  refine ⟨s, hrun, hturns, ?_⟩
  refine (interleave_serial fourClients "/key.json" {} hrun hdone).2.1 [1, 2, 3, 0] ?_
  rw [hturns]
  decide +kernel

end Clients

end MangaPress.Credential
