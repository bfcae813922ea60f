/-
# Other entries in the credential file

A credential file that is an object of texts stays one: whatever is done to the key, there is an
object of texts in the file afterwards, and under every other name it has the value that was there.
Where a name stands twice, its last value counts. An object in which anything is not a text is never
touched, and the key in it is neither read nor stored.

Key definitions: `Credential.HoldsObject`, `Credential.valueAt`, `Credential.HoldsTexts`.
Key theorems: `Entries.lookup_ofMembers`, `Credential.HoldsTexts.perform`,
`Credential.HoldsTexts.run`, `Credential.other_entries_stay`.
-/
import MangaPress.Proofs.Credential.Refinement

namespace MangaPress

open Json (Document Reading Source)

/-! ### The last of the members -/

namespace Entries

/-- What is found under a name is the value of the last member with it. -/
theorem lookup_ofMembers (members : List (Text × Text)) (name : Text) :
    (ofMembers members).lookup name = members.reverse.lookup name := by
  have hfold : ∀ (ms : List (Text × Text)) (entries : Entries),
      (ms.foldl (fun entries m => entries.set m.1 m.2) entries).lookup name =
        (ms.reverse ++ entries).lookup name := by
    intro ms
    induction ms with
    | nil => exact fun _ => rfl
    | cons m ms ih =>
      intro entries
      have hset : (entries.set m.1 m.2).lookup name = (m :: entries).lookup name := by
        rw [lookup_set, lookup_cons_eq_ite]
      rw [List.foldl_cons, ih, List.reverse_cons, List.append_assoc, List.singleton_append,
        List.lookup_append, hset, ← List.lookup_append]
  rw [ofMembers, hfold, List.append_nil]

theorem Sorted.lookup_reverse {entries : Entries} (h : entries.Sorted) (name : Text) :
    entries.reverse.lookup name = entries.lookup name := by
  rw [← lookup_ofMembers, ofMembers_of_sorted h]

end Entries

namespace Credential

/-! ### Objects -/

/-- In the file at a path there is a JSON object with these members. -/
def HoldsObject (files : FileTree) (path : Path) (members : List (Option Text × Reading)) : Prop :=
  ∃ content, files.bytesAt path = .ok content ∧ IsObject content members

/-- The value under a name: that of the last member with it. -/
def valueAt (members : List (Option Text × Reading)) (name : Text) : Option Reading :=
  members.reverse.lookup (some name)

/-- In the file at a path there is a JSON object of texts, and under each name it has this one. -/
def HoldsTexts (files : FileTree) (path : Path) (m : Contents) : Prop :=
  ∃ entries : List (Text × Text), HoldsObject files path (ofTexts entries) ∧
    ∀ name, entries.reverse.lookup name = m name

theorem exists_ofTexts {members : List (Option Text × Reading)} (h : ∀ m ∈ members, IsEntry m) :
    ∃ entries, members = ofTexts entries := by
  induction members with
  | nil => exact ⟨[], rfl⟩
  | cons m members ih =>
    obtain ⟨hm, hmembers⟩ := List.forall_mem_cons.mp h
    obtain ⟨name, text, rfl⟩ := hm
    obtain ⟨entries, rfl⟩ := ih hmembers
    exact ⟨(name, text) :: entries, rfl⟩

theorem valueAt_ofTexts (entries : List (Text × Text)) (name : Text) :
    valueAt (ofTexts entries) name =
      (entries.reverse.lookup name).map fun text => .string (some text) := by
  rw [valueAt, ofTexts, ← List.map_reverse]
  generalize entries.reverse = es
  induction es with
  | nil => rfl
  | cons e es ih =>
    rw [List.map_cons, lookup_cons_eq_ite, lookup_cons_eq_ite, ih]
    by_cases h : name = e.1
    · simp [h]
    · simp [h]

/-! ### One operation -/

variable {files : FileTree} {path : Path} {m : Contents}

theorem HoldsTexts.reads (h : HoldsTexts files path m) : Reads files path m := by
  obtain ⟨entries, ⟨content, hcontent, hobject⟩, hm⟩ := h
  refine ⟨Entries.ofMembers entries, ?_, fun name => ?_⟩
  · rw [readEntries_of_bytesAt hcontent, parseEntries_of_object hobject]
  · rw [Entries.lookup_ofMembers, hm]

theorem HoldsTexts.writable (h : HoldsTexts files path m) : Writable files path := by
  obtain ⟨entries, ⟨content, hcontent, -⟩, -⟩ := h
  exact .of_bytesAt hcontent

/-- A file to which entries were written is an object of texts. -/
theorem holdsTexts_of_bytesAt {entries : Entries} (hs : entries.Sorted)
    (h : files.bytesAt path = .ok (Text.encode entries.write))
    (hm : ∀ name, entries.lookup name = m name) : HoldsTexts files path m := by
  refine ⟨entries, ⟨_, h, isObject_encode_write entries⟩, fun name => ?_⟩
  rw [hs.lookup_reverse, hm]

/-- Where an object of texts is in the file, other entries can be written in its place. -/
theorem HoldsTexts.writeEntries (h : HoldsTexts files path m) {entries : Entries}
    (hs : entries.Sorted) {m' : Contents} (hm : ∀ name, entries.lookup name = m' name) :
    HoldsTexts (writeEntries files path entries).1 path m' := by
  obtain ⟨-, ⟨content, hcontent, -⟩, -⟩ := h
  rcases writeEntries_cases files path entries with ⟨files', hw, hb⟩ | ⟨files', e, -, hno, -⟩
  · rw [hw]
    exact holdsTexts_of_bytesAt hs hb hm
  · exact absurd hcontent (hno content)

/-- **Step**: an operation leaves an object of texts, which says what the operation makes of what the
one before said. -/
theorem HoldsTexts.perform (h : HoldsTexts files path m) (op : Operation) :
    (op.perform files path).2 = (op.onContents m).2 ∧
      HoldsTexts (op.perform files path).1 path (op.onContents m).1 := by
  constructor
  · have hcases := op.perform_cases h.reads .ample
    generalize op.perform files path .ample = done at hcases ⊢
    cases hcases with
    | done _ _ => rfl
    | unopened shut _ _ => exact absurd h.writable shut
    | cut short =>
      obtain ⟨_, -, hfull, -⟩ := short
      cases hfull
  · obtain ⟨entries, hread, hm⟩ := h.reads
    have hs := sorted_of_readEntries hread
    cases op with
    | load => exact h
    | save key =>
      rw [Operation.perform, Operation.onContents, Credential.save]
      cases trimmed? key with
      | none => exact h
      | some stored =>
        rw [hread]
        exact h.writeEntries (hs.set entryName stored) (lookup_set_eq_update hm stored)
    | clear =>
      rw [Operation.perform, Operation.onContents, Credential.clear, hread]
      cases hl : entries.lookup entryName with
      | some old =>
        dsimp only
        rw [hl]
        exact h.writeEntries (hs.remove entryName) (lookup_remove_eq_update hm)
      | none =>
        have hsame : Function.update m entryName none = m := by
          rw [Function.update_eq_self_iff, ← hm, hl]
        dsimp only
        rw [hl, hsame]
        exact h

/-- **Run**: so do operations one after another. -/
theorem HoldsTexts.run : ∀ (ops : List Operation) {files : FileTree} {m : Contents},
    HoldsTexts files path m → (run files path ops).2 = (runOnContents m ops).2 ∧
      HoldsTexts (run files path ops).1 path (runOnContents m ops).1
  | [], _, _, h => ⟨rfl, h⟩
  | op :: ops, _, _, h => by
    obtain ⟨hout, hnext⟩ := h.perform op
    obtain ⟨houts, hend⟩ := HoldsTexts.run ops hnext
    rw [run_cons, runOnContents_cons]
    exact ⟨by rw [hout, houts], hend⟩

/-! ### The other entries -/

/-- A key that is stored is there until it is removed. -/
theorem runOnContents_save_clear (m : Contents) {key : Text} (h : Filled key) :
    (runOnContents m [.save key, .load, .clear, .load]).2 =
      [.ok none, .ok (some (Text.trim key)), .ok none, .ok none] := by
  have hnone : ∀ m' : Contents, (Operation.load.onContents (Function.update m' entryName none)).2 =
      .ok none := by
    intro m'
    rw [Operation.onContents, Function.update_self]
    rfl
  rw [runOnContents_cons, Operation.onContents_save m h, runOnContents_cons,
    Operation.onContents_load m h, runOnContents_cons, runOnContents_cons]
  dsimp only [Operation.onContents, runOnContents]
  rw [Function.update_self]
  rfl

/-- On an object in which something is not a text every operation fails, and nothing is changed. -/
theorem refused_of_mixed {members : List (Option Text × Reading)} (h : HoldsObject files path members)
    (hmixed : ¬ ∀ e ∈ members, IsEntry e) :
    load files path = .error .malformed ∧ clear files path = (files, .error .malformed) ∧
      ∀ key, Filled key → save files path key = (files, .error .malformed) := by
  obtain ⟨content, hcontent, hobject⟩ := h
  have hread : readEntries files path = .error .malformed := by
    rw [readEntries_of_bytesAt hcontent, parseEntries_of_mixed hobject hmixed]
  refine ⟨?_, ?_, fun key hkey => ?_⟩
  · rw [load, hread]
    rfl
  · rw [clear, hread]
  · rw [save, trimmed?_of_filled hkey]
    dsimp only
    rw [hread]

/-- **Other entries stay.** Let the credential file be a JSON object, on a disk with room. If all its
members are texts, a key that is not blank can be stored, is then loaded without the white space at its
ends, can be removed, and is gone then; and whatever is done to the key, the file is an object again, in
which every other name has the value it had. If some member is not a text, loading, storing and removing
a key fail, and nothing is changed. -/
theorem other_entries_stay {members : List (Option Text × Reading)}
    (h : HoldsObject files path members) :
    ((∀ e ∈ members, IsEntry e) →
      (∀ key, Filled key → (run files path [.save key, .load, .clear, .load]).2 =
        [.ok none, .ok (some (Text.trim key)), .ok none, .ok none]) ∧
      ∀ ops, ∃ members', HoldsObject (run files path ops).1 path members' ∧
        ∀ name ≠ entryName, valueAt members' name = valueAt members name) ∧
    ((¬ ∀ e ∈ members, IsEntry e) →
      load files path = .error .malformed ∧ clear files path = (files, .error .malformed) ∧
        ∀ key, Filled key → save files path key = (files, .error .malformed)) := by
  refine ⟨fun htexts => ?_, refused_of_mixed h⟩
  obtain ⟨entries, rfl⟩ := exists_ofTexts htexts
  have hholds : HoldsTexts files path fun name => entries.reverse.lookup name :=
    ⟨entries, h, fun _ => rfl⟩
  refine ⟨fun key hkey => ?_, fun ops => ?_⟩
  · rw [(hholds.run _).1, runOnContents_save_clear _ hkey]
  · obtain ⟨-, entries', hobject, hm⟩ := hholds.run ops
    refine ⟨_, hobject, fun name hname => ?_⟩
    rw [valueAt_ofTexts, valueAt_ofTexts, hm, runOnContents_of_ne hname]

/-! ### Single files -/

/-- The tree with a credential file that holds an object. -/
def keyTree (members : List (Text × Json.Value)) : FileTree where
  entries := [(["key.json".toList], .file (Text.encode (Json.Value.object members).pretty))]

theorem holdsObject_keyTree (members : List (Text × Json.Value)) :
    HoldsObject (keyTree members) "key.json" (Json.Value.readingsOfMembers members) := by
  refine ⟨_, rfl, ?_⟩
  rw [IsObject, Source.ofBytes_encode, Document.ofSource_pretty, Json.Value.reading]

/-- A name that stands twice keeps its last value. -/
theorem stored_beside_entries :
    let files := keyTree [("other", .string "first"), (entryName, .string "old"),
      ("other", .string "keep")]
    (run files "key.json" [.save " new ", .load, .clear, .load]).2 =
        [.ok none, .ok (some "new".toList), .ok none, .ok none] ∧
      ∃ members, HoldsObject (run files "key.json" [.save " new "]).1 "key.json" members ∧
        valueAt members "other" = some (.string (some "keep".toList)) := by
  intro files
  have hobject := holdsObject_keyTree [("other", .string "first"), (entryName, .string "old"),
    ("other", .string "keep")]
  obtain ⟨hruns, hstays⟩ := (other_entries_stay hobject).1
    (isEntry_of_mem_ofTexts [("other", "first"), (entryName, "old"), ("other", "keep")])
  obtain ⟨members, hmembers, hvalues⟩ := hstays [.save " new "]
  refine ⟨hruns " new " (by decide), members, hmembers, ?_⟩
  rw [hvalues "other" (by decide)]
  rfl

/-- A number beside the key is enough for no key to be stored. -/
theorem refused_beside_number :
    HoldsObject (keyTree [("other", .int 5)]) "key.json"
        [(some "other".toList, .number "5".toList)] ∧
      (save (keyTree [("other", .int 5)]) "key.json" "k").2 = .error .malformed ∧
      load (keyTree [("other", .int 5)]) "key.json" = .error .malformed := by
  have hfive : Text.ofInt 5 = "5".toList := by decide +kernel
  have hobject := holdsObject_keyTree [("other", .int 5)]
  simp only [Json.Value.readingsOfMembers, Json.Value.reading, hfive] at hobject
  have hmixed : ¬ ∀ e ∈ [(some "other".toList, Reading.number "5".toList)], IsEntry e := by
    intro h
    obtain ⟨name, text, he⟩ := h _ List.mem_cons_self
    cases he
  obtain ⟨hload, -, hsave⟩ := refused_of_mixed hobject hmixed
  refine ⟨hobject, ?_, hload⟩
  rw [hsave "k" (by decide)]

end Credential

end MangaPress
