/-
# The stored credential over whole runs

Loading, storing and removing the key act on the credential file as `Operation.onContents` acts on a
map, or do not get as far (`Operation.perform_cases`): the file cannot be opened, and then there is
none before and after, or the disk has no room for all of it, and then it is left with the beginning of
what was to be written. So a run of operations does on the file what it does on the map, as long as
the file system does not fail (`run_refines`), and touches no entry but the key's own (`runWithin_frame`).

Key definitions: `Credential.Operation`, `Credential.runWithin`, `Credential.runOnContents`.
Key theorems: `Credential.Operation.perform_cases`, `Credential.run_refines`,
`Credential.runWithin_frame`, `Credential.store_refines_map`.
-/
import MangaPress.Proofs.Credential.Key
import MangaPress.Proofs.Credential.Store
import Mathlib.Logic.Function.Basic

namespace MangaPress.Credential

/-- What can be done to the stored key. -/
inductive Operation where
  | load
  | save (key : Text)
  | clear
deriving Repr, DecidableEq

/-- What an operation comes to: the key that was loaded, if one was. -/
abbrev Outcome := Except CredentialError (Option Text)

/-- Does an operation on the file at a path. -/
def Operation.perform (files : FileTree) (path : Path) (op : Operation) (room : Room := .ample) :
    FileTree × Outcome :=
  match op with
  | .load => (files, Credential.load files path)
  | .save key =>
    let (files, done) := Credential.save files path key room
    (files, done.map fun _ => none)
  | .clear =>
    let (files, done) := Credential.clear files path room
    (files, done.map fun _ => none)

/-- Does operations in order, each with the room that the disk has then. -/
def runWithin (files : FileTree) (path : Path) : List (Operation × Room) → FileTree × List Outcome
  | [] => (files, [])
  | (op, room) :: ops =>
    let (files, outcome) := op.perform files path room
    let (files, outcomes) := runWithin files path ops
    (files, outcome :: outcomes)

/-- Does operations in order where the disk has room for all of them. -/
def run (files : FileTree) (path : Path) (ops : List Operation) : FileTree × List Outcome :=
  runWithin files path (ops.map fun op => (op, .ample))

/-! ### The map -/

/-- What an operation does to a map. -/
def Operation.onContents (m : Contents) : Operation → Contents × Outcome
  | .load => (m, .ok ((m entryName).bind trimmed?))
  | .save key =>
    match trimmed? key with
    | none => (m, .error .emptyKey)
    | some key => (Function.update m entryName (some key), .ok none)
  | .clear => (Function.update m entryName none, .ok none)

/-- Does operations on a map, in order. -/
def runOnContents (m : Contents) : List Operation → Contents × List Outcome
  | [] => (m, [])
  | op :: ops =>
    let (m, outcome) := op.onContents m
    let (m, outcomes) := runOnContents m ops
    (m, outcome :: outcomes)

theorem Operation.onContents_of_ne {m : Contents} {name : Text} (h : name ≠ entryName) :
    ∀ op : Operation, (op.onContents m).1 name = m name
  | .load => rfl
  | .save key => by
    rw [onContents]
    cases trimmed? key with
    | none => rfl
    | some stored => exact Function.update_of_ne h _ _
  | .clear => Function.update_of_ne h _ _

/-! ### One operation -/

variable {files : FileTree} {path : Path} {m : Contents}

theorem lookup_set_eq_update {entries : Entries} (hm : ∀ name, entries.lookup name = m name)
    (key name : Text) :
    (entries.set entryName key).lookup name = Function.update m entryName (some key) name := by
  rw [Entries.lookup_set, Function.update_apply, hm]

theorem lookup_remove_eq_update {entries : Entries} (hm : ∀ name, entries.lookup name = m name)
    (name : Text) :
    (entries.remove entryName).lookup name = Function.update m entryName none name := by
  rw [Entries.lookup_remove, Function.update_apply, hm]

/-- The file has in it the beginning of entries, for the rest of which there was no room. -/
def CutShort (files : FileTree) (path : Path) (m : Contents) (room : Room) : Prop :=
  ∃ entries : Entries, (∀ name, entries.lookup name = m name) ∧
    room.holds (Text.encode entries.write) = false ∧
    files.bytesAt path = .ok (room.part (Text.encode entries.write))

/-- What becomes of an operation that is to have an outcome and to make the file say something: so it
does; or the file is neither there nor can be made; or it is left with as much of what was to be written
as there is room for. -/
inductive Performed (files : FileTree) (path : Path) (m : Contents) (outcome : Outcome) (room : Room) :
    FileTree × Outcome → Prop where
  | done {files' : FileTree} (reads : Reads files' path m)
    (keeps : Writable files path → Writable files' path) :
    Performed files path m outcome room (files', outcome)
  | unopened {files' : FileTree} {e : FileError} (shut : ¬ Writable files path)
    (before : Unreadable files path) (after : Unreadable files' path) :
    Performed files path m outcome room (files', .error (.files e))
  | cut {files' : FileTree} (short : CutShort files' path m room) :
    Performed files path m outcome room (files', .error (.files .noSpace))

theorem performed_writeEntries (files : FileTree) (path : Path) {entries : Entries}
    (hs : entries.Sorted) (hm : ∀ name, entries.lookup name = m name) (room : Room) :
    Performed files path m (.ok none) room ((writeEntries files path entries room).1,
      (writeEntries files path entries room).2.map fun _ => none) := by
  rcases writeEntries_opens files path with
    ⟨opened, l, -, hl, hwrite⟩ | ⟨opened, e, -, hwrite, hno, hno'⟩
  · have hbytes := hl.bytesAt_put (room.part (Text.encode entries.write))
    rw [hwrite, FileTree.fill]
    cases hholds : room.holds (Text.encode entries.write) with
    | true =>
      rw [Room.part_of_holds hholds] at hbytes ⊢
      obtain ⟨read, hr, hlookup⟩ := reads_of_bytesAt hs hbytes
      exact .done ⟨read, hr, fun name => (hlookup name).trans (hm name)⟩ fun _ => .of_bytesAt hbytes
    | false => exact .cut ⟨entries, hm, hholds, hbytes⟩
  · rw [hwrite]
    refine .unopened (fun hw => ?_) hno hno'
    rw [Writable, hwrite] at hw
    cases hw

/-- **Step**: an operation does to a file what it does to the map that the file says, or does not get as
far. -/
theorem Operation.perform_cases (h : Reads files path m) (op : Operation) (room : Room) :
    Performed files path (op.onContents m).1 (op.onContents m).2 room
      (op.perform files path room) := by
  obtain ⟨entries, hr, hm⟩ := h
  have hs := sorted_of_readEntries hr
  cases op with
  | load =>
    have hload : Credential.load files path = .ok ((m entryName).bind trimmed?) := by
      rw [Credential.load, hr, ← hm]
      rfl
    rw [perform, onContents, hload]
    exact .done ⟨entries, hr, hm⟩ id
  | save key =>
    rw [perform, onContents, Credential.save]
    cases trimmed? key with
    | none => exact .done ⟨entries, hr, hm⟩ id
    | some stored =>
      rw [hr]
      exact performed_writeEntries files path (hs.set entryName stored)
        (lookup_set_eq_update hm stored) room
  | clear =>
    rw [perform, onContents, Credential.clear, hr]
    dsimp only
    cases hl : entries.lookup entryName with
    | none =>
      refine .done ⟨entries, hr, fun name => ?_⟩ id
      rw [Function.update_apply, hm]
      split
      · rename_i hname
        rw [hname, ← hm, hl]
      · rfl
    | some old =>
      rw [Option.isSome_some, if_pos rfl]
      exact performed_writeEntries files path (hs.remove entryName) (lookup_remove_eq_update hm) room

/-- On a map only a blank key is refused. -/
theorem Operation.onContents_eq_error {op : Operation} {e : CredentialError}
    (h : (op.onContents m).2 = .error e) : ∃ key, op = .save key ∧ Text.trim key = [] := by
  cases op with
  | load => cases h
  | clear => cases h
  | save key =>
    rw [onContents] at h
    cases ht : trimmed? key with
    | none => exact ⟨key, rfl, trimmed?_eq_none_iff.mp ht⟩
    | some stored =>
      rw [ht] at h
      cases h

theorem Unreadable.toOption (h : Unreadable files path) : (files.bytesAt path).toOption = none := by
  cases hb : files.bytesAt path with
  | ok content => exact absurd hb (h content)
  | error e => rfl

theorem runWithin_cons (op : Operation) (room : Room) (ops : List (Operation × Room)) :
    runWithin files path ((op, room) :: ops) =
      ((runWithin (op.perform files path room).1 path ops).1,
        (op.perform files path room).2 :: (runWithin (op.perform files path room).1 path ops).2) :=
  rfl

theorem run_cons (op : Operation) (ops : List Operation) :
    run files path (op :: ops) =
      ((run (op.perform files path).1 path ops).1,
        (op.perform files path).2 :: (run (op.perform files path).1 path ops).2) := rfl

/-- The last operation of a run is done on what the others leave. -/
theorem run_concat (op : Operation) : ∀ (ops : List Operation) (files : FileTree),
    run files path (ops ++ [op]) =
      ((op.perform (run files path ops).1 path).1,
        (run files path ops).2 ++ [(op.perform (run files path ops).1 path).2])
  | [], _ => rfl
  | _ :: ops, _ => by rw [List.cons_append, run_cons, run_concat op ops, run_cons, List.cons_append]

theorem runOnContents_cons (op : Operation) (ops : List Operation) :
    runOnContents m (op :: ops) =
      ((runOnContents (op.onContents m).1 ops).1,
        (op.onContents m).2 :: (runOnContents (op.onContents m).1 ops).2) := rfl

theorem runOnContents_of_ne {name : Text} (h : name ≠ entryName) :
    ∀ (ops : List Operation) (m : Contents), (runOnContents m ops).1 name = m name
  | [], _ => rfl
  | op :: ops, m => by
    rw [runOnContents_cons, runOnContents_of_ne h ops, op.onContents_of_ne h]

/-- **Run**: one that no failure of the file system breaks does on the file what it does on the map. -/
theorem runWithin_refines : ∀ {ops : List (Operation × Room)} {files : FileTree} {m : Contents},
    Reads files path m → (∀ e, .error (.files e) ∉ (runWithin files path ops).2) →
    (runWithin files path ops).2 = (runOnContents m (ops.map Prod.fst)).2 ∧
      Reads (runWithin files path ops).1 path (runOnContents m (ops.map Prod.fst)).1
  | [], _, _, h, _ => ⟨rfl, h⟩
  | (op, room) :: ops, files, m, h, hfine => by
    rw [runWithin_cons] at hfine ⊢
    rw [List.map_cons, runOnContents_cons]
    have hcases := op.perform_cases h room
    generalize op.perform files path room = done at hcases hfine ⊢
    cases hcases with
    | done reads keeps =>
      obtain ⟨houts, hend⟩ := runWithin_refines reads fun e he =>
        hfine e (List.mem_cons_of_mem _ he)
      exact ⟨by rw [houts], hend⟩
    | unopened _ _ _ => exact absurd List.mem_cons_self (hfine _)
    | cut _ => exact absurd List.mem_cons_self (hfine _)

/-- Where the file can be written and there is room on the disk, the file system does not fail. -/
theorem runWithin_of_writable : ∀ {ops : List (Operation × Room)} {files : FileTree} {m : Contents},
    Reads files path m → Writable files path → (∀ x ∈ ops, x.2 = .ample) →
      ∀ e, .error (.files e) ∉ (runWithin files path ops).2
  | [], _, _, _, _, _, _ => List.not_mem_nil
  | (op, room) :: ops, files, m, h, hw, hall, e => by
    obtain ⟨rfl, hroom⟩ := List.forall_mem_cons.mp hall
    rw [runWithin_cons, List.mem_cons]
    have hcases := op.perform_cases h .ample
    generalize op.perform files path .ample = done at hcases ⊢
    cases hcases with
    | done reads keeps =>
      rintro (he | he)
      · obtain ⟨key, rfl, hblank⟩ := Operation.onContents_eq_error he.symm
        rw [Operation.onContents, trimmed?_eq_none_iff.mpr hblank] at he
        cases he
      · exact runWithin_of_writable reads (keeps hw) hroom e he
    | unopened shut _ _ => exact absurd hw shut
    | cut short =>
      obtain ⟨_, -, hfull, -⟩ := short
      cases hfull

theorem run_refines {ops : List Operation} (h : Reads files path m)
    (hfine : ∀ e, .error (.files e) ∉ (run files path ops).2) :
    (run files path ops).2 = (runOnContents m ops).2 ∧
      Reads (run files path ops).1 path (runOnContents m ops).1 := by
  have hrefines := runWithin_refines h hfine
  rw [List.map_map, show Prod.fst ∘ (fun op : Operation => (op, Room.ample)) = id from rfl,
    List.map_id] at hrefines
  exact hrefines

theorem run_of_writable {ops : List Operation} (h : Reads files path m) (hw : Writable files path) :
    ∀ e, .error (.files e) ∉ (run files path ops).2 :=
  runWithin_of_writable h hw <| List.forall_mem_map.mpr fun _ _ => rfl

theorem Operation.onContents_save (m : Contents) {key : Text} (h : Filled key) :
    (Operation.save key).onContents m =
      (Function.update m entryName (some (Text.trim key)), .ok none) := by
  rw [onContents, trimmed?_of_filled h]

/-- A key that is stored is loaded without the white space at its ends, though both operations
trim. -/
theorem Operation.onContents_load (m : Contents) {key : Text} (h : Filled key) :
    Operation.load.onContents (Function.update m entryName (some (Text.trim key))) =
      (Function.update m entryName (some (Text.trim key)), .ok (some (Text.trim key))) := by
  rw [onContents, Function.update_self, Option.bind_some, trimmed?_of_filled (filled_trim h),
    Text.trim_trim]

end MangaPress.Credential
