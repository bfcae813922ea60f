/-
# Whose names are told

Of the names that appear in the panels of a page, a generated page tells those of the recurring
characters with their reference images and all others as unmatched. The unmatched names are collected
in one pass over the appearances; what the pass has collected after each appearance is `NewAmong` the
appearances so far: each name that is none of the known ones, once, in the order of first appearance.
There is only one list of this kind (`NewAmong.unique`), so this says what the pass collects.

Key definitions: `Page.note`, `Page.NewAmong`.
Key theorems: `Page.NewAmong.concat`, `Page.newAmong_unmatchedNames`, `Generation.names_of_run`.
-/
import MangaPress.Proofs.Agree
import MangaPress.Proofs.Generation.Run
import Mathlib.Data.List.Perm.Lattice
import Mathlib.Logic.Basic

namespace MangaPress

namespace Page

/-! ### One pass over the names -/

/-- The names collected so far, and one more unless it is known or collected already. -/
def note (known collected : List Text) (name : Text) : List Text :=
  if known.contains name || collected.contains name then collected else collected ++ [name]

theorem unmatchedNames_eq (page : Page) :
    page.unmatchedNames = page.appearanceNames.foldl (note page.characterNames) [] := rfl

theorem note_of_mem {known collected : List Text} {name : Text}
    (h : name ∈ known ∨ name ∈ collected) : note known collected name = collected := by
  have hcontains : (known.contains name || collected.contains name) = true := by simpa using h
  rw [note, if_pos hcontains]

theorem note_of_new {known collected : List Text} {name : Text} (hknown : name ∉ known)
    (hnew : name ∉ collected) : note known collected name = collected ++ [name] := by
  have hcontains : ¬ (known.contains name || collected.contains name) = true := by
    simp [hknown, hnew]
  rw [note, if_neg hcontains]

/-- The names are those among `all` that are not known, each one once and in the order of their first
appearance in `all`. -/
structure NewAmong (known all names : List Text) : Prop where
  nodup : names.Nodup
  mem_iff : ∀ name, name ∈ names ↔ name ∈ all ∧ name ∉ known
  order : names.Pairwise fun a b => all.idxOf a < all.idxOf b

namespace NewAmong

variable {known all names : List Text}

theorem nil (known : List Text) : NewAmong known [] [] where
  nodup := List.nodup_nil
  mem_iff := by simp
  order := .nil

/-- What comes later in `all` leaves the order of the names as it is. -/
theorem order_append (h : NewAmong known all names) (more : List Text) :
    names.Pairwise fun a b => (all ++ more).idxOf a < (all ++ more).idxOf b := by
  refine List.Pairwise.imp_of_mem (fun {a b} ha hb hab => ?_) h.order
  have ha : a ∈ all := ((h.mem_iff a).mp ha).1
  have hb : b ∈ all := ((h.mem_iff b).mp hb).1
  rw [List.idxOf_append_of_mem ha, List.idxOf_append_of_mem hb]
  exact hab

/-- **One more appearance.** What is collected before an appearance and after it are the names of
this kind. -/
theorem concat (h : NewAmong known all names) (name : Text) :
    NewAmong known (all ++ [name]) (note known names name) := by
  by_cases hold : name ∈ known ∨ name ∈ names
  · -- Nothing is collected: the name is known, or among the earlier ones.
    rw [note_of_mem hold]
    refine ⟨h.nodup, fun other => ?_, h.order_append [name]⟩
    have hother : other = name → (other ∈ all ∧ other ∉ known ↔ other ∉ known) := by
      rintro rfl
      rcases hold with hknown | hmem
      · simp [hknown]
      · simp [((h.mem_iff other).mp hmem).1]
    by_cases heq : other = name
    · rw [h.mem_iff, hother heq]
      simp [heq]
    · rw [h.mem_iff]
      simp [heq]
  · obtain ⟨hknown, hnew⟩ := not_or.mp hold
    have hfirst : name ∉ all := fun hall => hnew ((h.mem_iff name).mpr ⟨hall, hknown⟩)
    rw [note_of_new hknown hnew]
    refine ⟨?_, fun other => ?_, ?_⟩
    · rw [List.nodup_append_comm, List.singleton_append]
      exact List.nodup_cons.mpr ⟨hnew, h.nodup⟩
    · by_cases heq : other = name
      · simp [heq, hknown]
      · simp [heq, h.mem_iff]
    · -- The name comes first at the end of all, after every name that is collected.
      refine List.pairwise_append.mpr ⟨h.order_append [name], List.pairwise_singleton _ name, ?_⟩
      intro a ha b hb
      have ha : a ∈ all := ((h.mem_iff a).mp ha).1
      rw [List.mem_singleton.mp hb, List.idxOf_append_of_mem ha, List.idxOf_append_of_notMem hfirst]
      exact Nat.lt_add_right _ (List.idxOf_lt_length_iff.mpr ha)

/-- There are no other names of this kind. -/
theorem unique {names' : List Text} (h : NewAmong known all names)
    (h' : NewAmong known all names') : names = names' := by
  have hperm : names.Perm names' := by
    rw [List.perm_ext_iff_of_nodup h.nodup h'.nodup]
    intro name
    rw [h.mem_iff, h'.mem_iff]
  apply List.Perm.eq_of_pairwise _ h.order h'.order hperm
  intro a b _ _ hab hba
  omega

end NewAmong

/-- The pass over any appearances collects the names of this kind. -/
theorem newAmong_foldl (known all : List Text) :
    NewAmong known all (all.foldl (note known) []) := by
  induction all using List.reverseRecOn with
  | nil => exact .nil known
  | append_singleton before name ih =>
    rw [List.foldl_concat]
    exact ih.concat name

theorem newAmong_unmatchedNames (page : Page) :
    NewAmong page.characterNames page.appearanceNames page.unmatchedNames := by
  rw [unmatchedNames_eq]
  exact newAmong_foldl page.characterNames page.appearanceNames

theorem mem_appearanceNames {page : Page} {panel : Panel} {a : Appearance}
    (hpanel : panel ∈ page.panels) (ha : a ∈ panel.characters) : a.name ∈ page.appearanceNames :=
  List.mem_flatMap.mpr ⟨panel, hpanel, List.mem_map_of_mem ha⟩

end Page

namespace Generation

variable (endpoint : Endpoint) (store : Reference.Store) (files : FileTree) (path : Path)
  (request : GenerateRequest) (x : Exchange)

/-- What a page that was generated tells of names. -/
theorem names_of_generated {generated : GeneratedPage}
    (h : (run endpoint store files path request x).1 = .ok generated) :
    ∃ page, Page.parse request.yaml = .ok page ∧
      generated.references.map (·.name) = page.characterNames ∧
      generated.unmatched = page.unmatchedNames := by
  unfold run at h
  cases hkey : resolveCredential files path request.apiKey with
  | error e => simp [hkey] at h
  | ok key =>
    cases hparse : Page.parse request.yaml with
    | error e => simp [hkey, hparse] at h
    | ok page =>
      simp only [hkey, hparse] at h
      split at h
      · simp at h
      · have hgenerated := Except.ok.inj h
        refine ⟨page, rfl, ?_, ?_⟩
        · rw [← hgenerated]
          simp [Reference.load, Reference.loadOne, Reference.Loaded.status, Function.comp_def]
        · rw [← hgenerated]

/-- **Every name of a panel is told once.** The unmatched names of a page are those that appear in its
panels and belong to no recurring character, each one once, in the order of their first appearance
over the panels and in each panel; no other list is. A page that is generated tells of one reference
image for each recurring character, in order, and every name that appears in a panel is either among
these or among the unmatched ones. -/
theorem names_of_run :
    (∀ (page : Page) (names : List Text), names = page.unmatchedNames ↔
      names.Nodup ∧
      (∀ name, name ∈ names ↔ (∃ panel ∈ page.panels, ∃ a ∈ panel.characters, a.name = name) ∧
        ¬ ∃ c ∈ page.characters, c.name = name) ∧
      names.Pairwise fun a b => page.appearanceNames.idxOf a < page.appearanceNames.idxOf b) ∧
    ∀ generated, (run endpoint store files path request x).1 = .ok generated →
      ∃ page, Page.parse request.yaml = .ok page ∧
        generated.references.map (·.name) = page.characters.map (·.name) ∧
        generated.unmatched = page.unmatchedNames ∧
        ∀ panel ∈ page.panels, ∀ a ∈ panel.characters,
          Xor (a.name ∈ generated.references.map (·.name)) (a.name ∈ generated.unmatched) := by
  constructor
  · intro page names
    have hnew := page.newAmong_unmatchedNames
    have happears : ∀ name, name ∈ page.appearanceNames ↔
        ∃ panel ∈ page.panels, ∃ a ∈ panel.characters, a.name = name := by
      intro name
      simp [Page.appearanceNames]
    have hknown : ∀ name, name ∈ page.characterNames ↔ ∃ c ∈ page.characters, c.name = name := by
      intro name
      simp [Page.characterNames]
    constructor
    · rintro rfl
      refine ⟨hnew.nodup, fun name => ?_, hnew.order⟩
      rw [hnew.mem_iff, happears, hknown]
    · rintro ⟨hnodup, hmem, horder⟩
      have hnames : Page.NewAmong page.characterNames page.appearanceNames names := by
        refine ⟨hnodup, fun name => ?_, horder⟩
        rw [hmem, happears, hknown]
      exact hnames.unique hnew
  · intro generated hrun
    obtain ⟨page, hparse, hreferences, hunmatched⟩ :=
      names_of_generated endpoint store files path request x hrun
    refine ⟨page, hparse, hreferences, hunmatched, fun panel hpanel a ha => ?_⟩
    have happears := Page.mem_appearanceNames hpanel ha
    rw [hreferences, hunmatched, page.newAmong_unmatchedNames.mem_iff]
    by_cases hknown : a.name ∈ page.characterNames
    · exact .inl ⟨hknown, fun h => h.2 hknown⟩
    · exact .inr ⟨⟨happears, hknown⟩, hknown⟩

/-! ### A page with a ghost -/

open Yaml (Value Numbered)

/-- A page with one recurring character, on which another one appears before and after it. -/
def hauntedPage : Text :=
  "comic_page:\n  character_infos:\n  - name: Ten\n  panels:\n  - number: 1\n    characters:\n" ++
    "    - name: Ghost\n    - name: Ten\n    - name: Ghost"

/-- A mapping with a name and nothing else. -/
def nameValue (name : Text) : Value :=
  .mapping [(.string "name", .string name)]

/-- What the document of the page says. -/
def hauntedValue : Value :=
  .mapping [(.string "comic_page", .mapping [
    (.string "character_infos", .sequence [nameValue "Ten"]),
    (.string "panels", .sequence [.mapping [(.string "number", .int 1),
      (.string "characters",
        .sequence [nameValue "Ghost", nameValue "Ten", nameValue "Ghost"])]])])]

/-- The events of a mapping with a name. -/
def nameEvents (name : Text) : List Numbered :=
  [.mappingStart none, .scalar none "name" true, .scalar none name true, .mappingEnd]

/-- The events of the document. -/
def hauntedEvents : List Numbered :=
  [.mappingStart none, .scalar none "comic_page" true, .mappingStart none,
    .scalar none "character_infos" true, .sequenceStart none] ++ nameEvents "Ten" ++
  [.sequenceEnd, .scalar none "panels" true, .sequenceStart none, .mappingStart none,
    .scalar none "number" true, .scalar none "1" true, .scalar none "characters" true,
    .sequenceStart none] ++ nameEvents "Ghost" ++ nameEvents "Ten" ++ nameEvents "Ghost" ++
  [.sequenceEnd, .mappingEnd, .sequenceEnd, .mappingEnd, .mappingEnd]

theorem read?_hauntedEvents :
    Yaml.Reader.read? { events := hauntedEvents, places := [] } = some hauntedValue := by
  have hplain : ∀ t ∈ (["comic_page", "character_infos", "panels", "number", "characters", "name",
      "Ten", "Ghost"] : List Text), Yaml.Scalar.ofPlain? t = some (.string t) := by
    simp only [List.forall_mem_cons, List.not_mem_nil, false_implies, implies_true, and_true]
    and_intros <;> rfl
  have hone : Yaml.Scalar.ofPlain? "1" = some (.int 1) := rfl
  simp at hplain hone
  simp [hauntedEvents, hauntedValue, nameEvents, nameValue, Yaml.Reader.read?, Yaml.maxDepth,
    Yaml.Reader.node, Yaml.Reader.entries, Yaml.Reader.items, Yaml.Reader.pendingTag?,
    Yaml.Reader.scalar?, Value.hasKey, Value.same, hplain, hone]

theorem parse_hauntedPage : Page.parse hauntedPage = Page.ofDocument hauntedValue := by
  have hevents : Yaml.events? hauntedPage = some (hauntedEvents, []) := by decide +kernel
  have hvalue : Value.parse? hauntedPage = some hauntedValue := by
    rw [Value.parse?_of_events hevents, read?_hauntedEvents]
  have hfilled : Text.allBlank hauntedPage = false := by decide
  rw [Page.parse, hfilled, hvalue]
  rfl

/-- An answer of the endpoint with an image. -/
def imageAnswer : Web.Answer :=
  .reply 200 none (Text.encode (Json.Value.object [("candidates", .array [.object [("content",
    .object [("parts", .array [imagePart { mimeType := "image/png", data := "QUJD" }])])]])]).compact)
    true

/-- The name of the ghost is told once, and not among those with a reference image. -/
theorem names_of_hauntedPage :
    ∃ generated, (run (Endpoint.of defaultBase defaultModel) (.ofDirectory {} "characters") {}
        "key.json" { yaml := hauntedPage, apiKey := some "key" }
        { answers := [imageAnswer] }).1 = .ok generated ∧
      generated.references.map (·.name) = ["Ten".toList] ∧
      generated.unmatched = ["Ghost".toList] := by
  have hsome : (Web.Url.parse? (Endpoint.of defaultBase defaultModel).address).isSome = true := by
    decide +kernel
  have himage : interpret imageAnswer = .ok { mimeType := "image/png", data := "QUJD" } :=
    eq_ok_of_toOption (by decide +kernel)
  have hkey : resolveCredential {} "key.json" (some "key".toList) = .ok "key" :=
    resolveCredential_eq_ok_iff.mpr (.own rfl (by decide +kernel))
  have hpage : ∃ page, Page.ofDocument hauntedValue = .ok page ∧
      page.characters.map (·.name) = ["Ten".toList] ∧ page.unmatchedNames = ["Ghost".toList] :=
    ⟨_, rfl, rfl, by decide +kernel⟩
  obtain ⟨url, hurl⟩ := Option.isSome_iff_exists.mp hsome
  obtain ⟨page, hread, hnames, hghost⟩ := hpage
  have hrun := run_of_page (Endpoint.of defaultBase defaultModel) (.ofDirectory {} "characters") {}
    "key.json" { yaml := hauntedPage, apiKey := some "key" } { answers := [imageAnswer] } hurl hkey
    (parse_hauntedPage.trans hread)
  have hgenerated := congrArg Prod.fst hrun
  have hpost := Exchange.post_of_reply (x := Exchange.lookUp { answers := [imageAnswer] }
    (Reference.requests (.ofDirectory {} "characters") page.characterNames)) rfl
    (callFor (.ofDirectory {} "characters") url "key" page)
  rw [← imageAnswer] at hpost
  simp only [hpost, himage] at hgenerated
  obtain ⟨page', hparse, hreferences, hunmatched, -⟩ := (names_of_run _ _ _ _ _ _).2 _ hgenerated
  have hsame : page' = page := by
    have hok := hparse.symm.trans (parse_hauntedPage.trans hread)
    exact Except.ok.inj hok
  rw [hsame] at hreferences hunmatched
  exact ⟨_, hgenerated, hreferences.trans hnames, hunmatched.trans hghost⟩

end Generation

end MangaPress
