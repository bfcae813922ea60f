/-
# Loading does not depend on timing

The images of all characters are looked up at the same time. A look-up waits for what the store
gives, makes an image of it or finds the reason why there is none, and is then done; the look-ups go
on in any order, one step of one look-up at a time. What was found is put beside the names by
position once every look-up is done.

A step of one look-up is taken without looking at the others, so where the look-ups stand after a
schedule depends only on how often each of them went on (`stands`). Every schedule that brings all of
them to an end therefore gives what loading the images one after the other gives, whichever look-up
is done first.

Key definitions: `Reference.Fetch`, `Fetch.next?`, `step`, `interleave`, `stands`, `loaded?`.
Key theorems: `interleave_stands`, `loaded?_interleave`, `load_untimed`.
-/
import MangaPress.Proofs.Base64
import MangaPress.Proofs.Text.Trim
import MangaPress.Reference.Load
import Mathlib.Data.List.Basic
import Mathlib.Logic.Function.Basic

namespace MangaPress.Reference

/-- How far the look-up of one image is. -/
inductive Fetch where
  | waiting
  /-- The store has answered. -/
  | answered (content : Except StoreError Content)
  | done (outcome : Except StoreError Image)

namespace Fetch

/-- The next step of the look-up for a name, if it is not done. -/
def next? (store : Store) (name : Text) : Fetch → Option Fetch
  | .waiting => some (.answered (store.content (fileName name)))
  | .answered content => some (.done (content.bind imageOf))
  | .done _ => none

/-- What the look-up gave, if it is done. -/
def outcome? : Fetch → Option (Except StoreError Image)
  | .done outcome => some outcome
  | .waiting | .answered _ => none

/-- Where the look-up for a name stands after a number of steps. -/
def after (store : Store) (name : Text) : Nat → Fetch
  | 0 => .waiting
  | 1 => .answered (store.content (fileName name))
  | _ + 2 => .done (loadOne store name).outcome

end Fetch

/-- The next step of the look-up at a position, if it can take one. -/
def step (store : Store) (names : List Text) (slots : List Fetch) (i : Nat) :
    Option (List Fetch) := do
  let name ← names[i]?
  let slot ← slots[i]?
  let next ← slot.next? store name
  some (slots.set i next)

/-- Steps of look-ups, in the order in which their positions are named. -/
def interleave (store : Store) (names : List Text) (slots : List Fetch) :
    List Nat → Option (List Fetch)
  | [] => some slots
  | i :: schedule => (step store names slots i).bind fun slots =>
      interleave store names slots schedule

/-- What was loaded: the outcomes beside the names, once every look-up is done. -/
def loaded? (names : List Text) (slots : List Fetch) : Option (List Loaded) :=
  (slots.mapM Fetch.outcome?).map (List.zipWith Loaded.mk names)

/-- The look-ups, each after its number of steps. -/
def stands (store : Store) (names : List Text) (counts : Nat → Nat) : List Fetch :=
  names.mapIdx fun i name => Fetch.after store name (counts i)

/-- The look-ups for names before any of them goes on. -/
def start (names : List Text) : List Fetch :=
  names.map fun _ => .waiting

/-! ### One look-up -/

variable {store : Store} {names : List Text} {counts : Nat → Nat}

theorem Fetch.next?_after (store : Store) (name : Text) (k : Nat) :
    (Fetch.after store name k).next? store name =
      if k < 2 then some (Fetch.after store name (k + 1)) else none := by
  match k with
  | 0 => rfl
  | 1 => rfl
  | _ + 2 => rfl

theorem Fetch.outcome?_after (store : Store) (name : Text) (k : Nat) :
    (Fetch.after store name k).outcome? =
      if 2 ≤ k then some (loadOne store name).outcome else none := by
  match k with
  | 0 => rfl
  | 1 => rfl
  | _ + 2 => simp [Fetch.after, Fetch.outcome?]

/-! ### One step -/

@[simp]
theorem length_stands : (stands store names counts).length = names.length :=
  List.length_mapIdx

theorem getElem?_stands (i : Nat) :
    (stands store names counts)[i]? = names[i]?.map fun name => Fetch.after store name (counts i) :=
  List.getElem?_mapIdx

theorem start_eq_stands (names : List Text) : start names = stands store names fun _ => 0 := by
  apply List.ext_getElem?
  intro i
  rw [getElem?_stands, start, List.getElem?_map]
  rfl

/-- One more step at a position changes what stands there and nothing else. -/
theorem set_stands {i : Nat} {name : Text} (h : names[i]? = some name) :
    (stands store names counts).set i (Fetch.after store name (counts i + 1)) =
      stands store names (Function.update counts i (counts i + 1)) := by
  apply List.ext_getElem?
  intro j
  rw [List.getElem?_set, getElem?_stands, getElem?_stands, length_stands]
  by_cases hij : i = j
  · subst hij
    obtain ⟨hi, rfl⟩ := List.getElem?_eq_some_iff.mp h
    simp [hi]
  · simp [hij, Function.update_of_ne (Ne.symm hij)]

/-- A look-up goes on as long as it is not done, whatever the others do. -/
theorem step_stands (i : Nat) :
    step store names (stands store names counts) i =
      if i < names.length ∧ counts i < 2 then
        some (stands store names (Function.update counts i (counts i + 1)))
      else none := by
  unfold step
  rw [getElem?_stands]
  cases h : names[i]? with
  | none =>
    have hi : ¬ i < names.length := by simpa using h
    simp [hi]
  | some name =>
    have hi : i < names.length := (List.getElem?_eq_some_iff.mp h).1
    by_cases hc : counts i < 2
    · simp [Fetch.next?_after, hi, hc, set_stands h]
    · simp [Fetch.next?_after, hc]

/-! ### All steps -/

/-- **Where the look-ups stand depends only on how often each of them went on.** -/
theorem interleave_stands (schedule : List Nat) {slots : List Fetch} :
    interleave store names (stands store names counts) schedule = some slots ↔
      (∀ i ∈ schedule, i < names.length ∧ counts i + schedule.count i ≤ 2) ∧
        slots = stands store names fun i => counts i + schedule.count i := by
  induction schedule generalizing counts with
  | nil => simp [interleave, eq_comm]
  | cons i schedule ih =>
    have hcounts : ∀ j, Function.update counts i (counts i + 1) j + schedule.count j =
        counts j + (i :: schedule).count j := by
      intro j
      by_cases hij : i = j
      · subst hij
        simp
        omega
      · simp [hij, Function.update_of_ne (Ne.symm hij)]
    rw [interleave, step_stands]
    by_cases hgo : i < names.length ∧ counts i < 2
    · rw [if_pos hgo, Option.bind_some, ih]
      simp only [hcounts]
      have hbound : (∀ j ∈ schedule, j < names.length ∧ counts j + (i :: schedule).count j ≤ 2) ↔
          ∀ j ∈ i :: schedule, j < names.length ∧ counts j + (i :: schedule).count j ≤ 2 := by
        refine ⟨fun h j hj => ?_, fun h j hj => h j (List.mem_cons_of_mem i hj)⟩
        by_cases hmem : j ∈ schedule
        · exact h j hmem
        · obtain rfl : j = i := (List.mem_cons.mp hj).resolve_right hmem
          have hcount : (j :: schedule).count j = 1 := by
            rw [List.count_cons_self, List.count_eq_zero_of_not_mem hmem]
          omega
      rw [hbound]
    · rw [if_neg hgo, Option.bind_none]
      have hcount : 1 ≤ (i :: schedule).count i := by simp
      constructor
      · exact fun h => nomatch h
      · intro h
        have hi := h.1 i List.mem_cons_self
        omega

/-- The outcomes are there once every look-up has taken its two steps. -/
theorem mapM_outcome?_stands {outcomes : List (Except StoreError Image)} :
    (stands store names counts).mapM Fetch.outcome? = some outcomes ↔
      (∀ i < names.length, 2 ≤ counts i) ∧
        outcomes = names.map fun name => (loadOne store name).outcome := by
  induction names generalizing counts outcomes with
  | nil => simp [stands, eq_comm]
  | cons name names ih =>
    have htail : stands store (name :: names) counts =
        Fetch.after store name (counts 0) :: stands store names fun i => counts (i + 1) :=
      List.mapIdx_cons
    rw [htail, List.mapM_cons, Fetch.outcome?_after]
    have hall : (∀ i < (name :: names).length, 2 ≤ counts i) ↔
        2 ≤ counts 0 ∧ ∀ i < names.length, 2 ≤ counts (i + 1) := by
      rw [List.length_cons, Nat.forall_lt_succ_left]
    rw [hall]
    by_cases hfirst : 2 ≤ counts 0
    · rw [if_pos hfirst]
      simp only [Option.bind_eq_bind, Option.bind_some, Option.bind_eq_some_iff, ih,
        Option.pure_def, Option.some.injEq, hfirst, true_and]
      constructor
      · rintro ⟨_, ⟨hrest, rfl⟩, rfl⟩
        exact ⟨hrest, rfl⟩
      · rintro ⟨hrest, rfl⟩
        exact ⟨_, ⟨hrest, rfl⟩, rfl⟩
    · simp [hfirst]

theorem loaded?_stands {ls : List Loaded} :
    loaded? names (stands store names counts) = some ls ↔
      (∀ i < names.length, 2 ≤ counts i) ∧ ls = load store names := by
  have hzip : List.zipWith Loaded.mk names (names.map fun name => (loadOne store name).outcome) =
      load store names := by
    rw [List.zipWith_map_right, List.zipWith_self]
    rfl
  simp only [loaded?, Option.map_eq_some_iff, mapM_outcome?_stands]
  constructor
  · rintro ⟨_, ⟨hall, rfl⟩, rfl⟩
    exact ⟨hall, hzip⟩
  · rintro ⟨hall, rfl⟩
    exact ⟨_, ⟨hall, rfl⟩, hzip⟩

/-- **In whatever order the look-ups go on, the same is loaded.** The schedules after which all is
loaded are those in which every look-up takes two steps. -/
theorem loaded?_interleave (store : Store) (names : List Text) (schedule : List Nat)
    (ls : List Loaded) :
    (interleave store names (start names) schedule).bind (loaded? names) = some ls ↔
      schedule.Perm (List.range names.length ++ List.range names.length) ∧
        ls = load store names := by
  have hperm : schedule.Perm (List.range names.length ++ List.range names.length) ↔
      (∀ i ∈ schedule, i < names.length ∧ schedule.count i ≤ 2) ∧
        ∀ i < names.length, 2 ≤ schedule.count i := by
    rw [List.perm_iff_count]
    simp only [List.count_append, List.count_range]
    constructor
    · intro h
      refine ⟨fun i hi => ?_, fun i hi => by simp [h i, hi]⟩
      have hpos : 0 < schedule.count i := List.count_pos_iff.mpr hi
      have hcount := h i
      by_cases hlt : i < names.length
      · simp [hlt] at hcount
        omega
      · simp [hlt] at hcount
        omega
    · intro h i
      by_cases hlt : i < names.length
      · have hlow := h.2 i hlt
        have hmem : i ∈ schedule := List.count_pos_iff.mp (by omega)
        have hhigh := (h.1 i hmem).2
        simp only [if_pos hlt]
        omega
      · have hnot : i ∉ schedule := fun hi => hlt (h.1 i hi).1
        simp [hlt, List.count_eq_zero_of_not_mem hnot]
  rw [start_eq_stands, Option.bind_eq_some_iff, hperm, and_assoc]
  have hstands := @interleave_stands store names (fun _ => 0) schedule
  simp only [Nat.zero_add] at hstands
  constructor
  · rintro ⟨slots, hslots, hloaded⟩
    obtain ⟨hbound, rfl⟩ := hstands.mp hslots
    exact ⟨hbound, loaded?_stands.mp hloaded⟩
  · rintro ⟨hbound, hloaded⟩
    exact ⟨_, hstands.mpr ⟨hbound, rfl⟩, loaded?_stands.mpr hloaded⟩

/-! ### What is loaded for a character -/

/-- A media type as it is sent is one of an image and has no parameters. -/
theorem imageMimeType_proper (contentType : Option Text) :
    "image/".toList <+: imageMimeType contentType ∧ ';' ∉ imageMimeType contentType := by
  have hdefault : "image/".toList <+: Image.defaultMimeType ∧ ';' ∉ Image.defaultMimeType := by
    decide
  unfold imageMimeType
  cases contentType with
  | none => exact hdefault
  | some t =>
    dsimp only
    split
    · rename_i himage
      refine ⟨List.isPrefixOf_iff_prefix.mp himage, fun hmem => ?_⟩
      have htaken := List.mem_takeWhile_imp ((Text.trim_sublist _).subset hmem)
      exact absurd htaken (by decide)
    · exact hdefault

/-- The image is that of a content: it holds exactly its bytes. -/
structure Content.ShownBy (c : Content) (i : Image) : Prop where
  bytes : c.bytes ≠ []
  data : i.data = Base64.encode c.bytes
  readBack : Base64.decode? i.data = some c.bytes
  isImage : "image/".toList <+: i.mimeType
  noParameters : ';' ∉ i.mimeType

theorem imageOf_eq_ok_iff {c : Content} {i : Image} :
    imageOf c = .ok i ↔ c.bytes ≠ [] ∧
      i = { mimeType := imageMimeType c.contentType, data := Base64.encode c.bytes } := by
  unfold imageOf
  by_cases h : c.bytes = []
  · simp [h]
  · rw [if_neg (by simp [h]), Except.ok.injEq]
    exact ⟨fun himage => ⟨h, himage.symm⟩, fun himage => himage.2.symm⟩

theorem image?_eq_some_iff {l : Loaded} {i : Image} : l.image? = some i ↔ l.outcome = .ok i := by
  unfold Loaded.image?
  cases l.outcome <;> simp [Except.toOption]

theorem image?_loadOne {name : Text} {i : Image} :
    (loadOne store name).image? = some i ↔
      ∃ c, store.content (fileName name) = .ok c ∧ imageOf c = .ok i := by
  rw [image?_eq_some_iff, loadOne]
  cases store.content (fileName name) with
  | error e => simp [Except.bind]
  | ok c => simp [Except.bind]

/-- An image is found if the store has bytes under the file name. -/
theorem isSome_image?_loadOne (store : Store) (name : Text) :
    (loadOne store name).image?.isSome = true ↔
      ∃ c, store.content (fileName name) = .ok c ∧ c.bytes ≠ [] := by
  simp only [Option.isSome_iff_exists, image?_loadOne, imageOf_eq_ok_iff]
  constructor
  · rintro ⟨_, c, hc, hbytes, -⟩
    exact ⟨c, hc, hbytes⟩
  · rintro ⟨c, hc, hbytes⟩
    exact ⟨_, c, hc, hbytes, rfl⟩

/-- What is found is the image of what the store has under the file name. -/
theorem shownBy_of_image? {name : Text} {i : Image} (h : (loadOne store name).image? = some i) :
    ∃ c, store.content (fileName name) = .ok c ∧ c.ShownBy i := by
  obtain ⟨c, hc, himage⟩ := image?_loadOne.mp h
  obtain ⟨hbytes, rfl⟩ := imageOf_eq_ok_iff.mp himage
  obtain ⟨hstart, hnone⟩ := imageMimeType_proper c.contentType
  exact ⟨c, hc, hbytes, rfl, Base64.decode?_encode c.bytes, hstart, hnone⟩

/-! ### What is told of all characters -/

theorem length_images (ls : List Loaded) : (Loaded.images ls).length = Loaded.foundCount ls :=
  List.length_filterMap_eq_countP

theorem countP_loaded (ls : List Loaded) :
    (ls.map Loaded.status).countP (fun s => s.loaded) = Loaded.foundCount ls :=
  List.countP_map

/-- A reason is given for exactly those images that are not there. -/
theorem reason_eq_none_iff (l : Loaded) : l.status.reason = none ↔ l.status.loaded = true := by
  unfold Loaded.status Loaded.image?
  cases l.outcome <;> simp [Except.toOption]

/-- **Loading the images of characters keeps their order and does not depend on timing.** Whatever a
store gives under the file names of characters, the schedules that bring all look-ups to an end are
those in which each takes its two steps, and all of them load the same: one entry for each character,
in the same place and with its name, whose outcome is that of its own look-up. An image is found if
and only if the store has bytes under the file name; then it holds exactly these bytes, and its media
type is one of an image without parameters. The images that are there stand in the order of the
characters, their number is that of the characters which are told to be loaded, and for each character
that is not, and for no other, a reason is told. -/
theorem load_untimed (store : Store) (names : List Text) :
    (∀ schedule ls, (interleave store names (start names) schedule).bind (loaded? names) = some ls ↔
      schedule.Perm (List.range names.length ++ List.range names.length) ∧ ls = load store names) ∧
    (∀ i : Nat, (load store names)[i]? = names[i]?.map (loadOne store)) ∧
    (∀ name, (loadOne store name).name = name ∧
      ((loadOne store name).image?.isSome = true ↔
        ∃ c, store.content (fileName name) = .ok c ∧ c.bytes ≠ []) ∧
      ∀ image, (loadOne store name).image? = some image →
        ∃ c, store.content (fileName name) = .ok c ∧ c.ShownBy image) ∧
    Loaded.images (load store names) = names.filterMap (fun name => (loadOne store name).image?) ∧
    Loaded.foundCount (load store names) = (Loaded.images (load store names)).length ∧
    Loaded.foundCount (load store names) =
      ((load store names).map Loaded.status).countP (fun s => s.loaded) ∧
    (∀ i : Nat, ((load store names).map Loaded.status)[i]? =
      names[i]?.map fun name => (loadOne store name).status) ∧
    ∀ name, (loadOne store name).status.name = name ∧
      (loadOne store name).status.fileName = fileName name ∧
      (loadOne store name).status.loaded = (loadOne store name).image?.isSome ∧
      ((loadOne store name).status.reason = none ↔ (loadOne store name).status.loaded = true) := by
  refine ⟨loaded?_interleave store names, fun i => ?_,
    fun name => ⟨rfl, isSome_image?_loadOne store name, fun image => shownBy_of_image?⟩,
    List.filterMap_map, (length_images _).symm, (countP_loaded _).symm, fun i => ?_,
    fun name => ⟨rfl, rfl, rfl, reason_eq_none_iff _⟩⟩
  · rw [load, List.getElem?_map]
  · rw [load, List.map_map, List.getElem?_map]
    rfl

/-- Two characters share an image and one has none; the last look-up is done first. -/
theorem load_of_shared_image :
    let store : Store := {
      content := fun file =>
        if file = "ANN_ORIGIN.png".toList then
          .ok { bytes := [65, 66, 67], contentType := some "image/webp; q=1".toList }
        else .error (.status 404)
      request? := fun _ => none }
    let image : Image := { mimeType := "image/webp", data := "QUJD" }
    let names : List Text := ["Ann", "Bob", "ann"]
    (interleave store names (start names) [2, 0, 2, 1, 1, 0]).bind (loaded? names) =
      some [⟨"Ann", .ok image⟩, ⟨"Bob", .error (.status 404)⟩, ⟨"ann", .ok image⟩] := by
  intro store image names
  have hann : fileName "Ann" = "ANN_ORIGIN.png".toList := by decide +kernel
  have hlow : fileName "ann" = "ANN_ORIGIN.png".toList := by decide +kernel
  have hbob : fileName "Bob" = "BOB_ORIGIN.png".toList := by decide +kernel
  have himage : imageOf { bytes := [65, 66, 67], contentType := some "image/webp; q=1".toList } =
      .ok image := by decide +kernel
  have hother : "BOB_ORIGIN.png".toList ≠ "ANN_ORIGIN.png".toList := by decide
  refine ((load_untimed store names).1 _ _).mpr ⟨by decide, ?_⟩
  simp only [load, names, List.map_cons, List.map_nil, loadOne, hann, hlow, hbob, store, if_true,
    if_neg hother, Except.bind, himage]

end MangaPress.Reference
