/-
# The number of a panel

The number of a panel is an integer of 64 bits, or the numeral of one between white space, and nothing
else (`Schema.IsNumber`). Take a page in either notation and give one of its panels another value for
its number: what comes of it is the same page with the number that the value stands for, or no page if
it stands for none. The text that a prompt shows for the number is a numeral of it, so it is read as
the same number, as a text and as it stands.

Key definitions: `Page.renumber`, `Page.Renumbered`.
Key theorems: `Panel.ofValue_inField_number`, `Page.ofValue_renumbered`, `Panel.number_in_block`,
`Page.numbers_read_exactly`.
-/
import MangaPress.Page.OfJson
import MangaPress.Proofs.Page.Integer
import MangaPress.Proofs.Prompt.Absence

namespace MangaPress

open Schema
open Yaml (Value)

variable {n : Notation} {v w y : Value}

/-! ### One panel -/

/-- A panel that is given another value for its number. -/
theorem Panel.ofValue_inField_number {p : Panel}
    (h : Shape.record n "Panel" (record n) v = .ok p)
    (hw : InField n ["number"] 0 (fun _ z => z = y) v w) (q : Panel) :
    Shape.record n "Panel" (record n) w = .ok q ↔
      ∃ k, IsNumber y k ∧ q = { p with number := k } := by
  obtain ⟨f, hf, hnames, hread⟩ : ∃ f, (record n).fields[0]? = some f ∧ f.names = ["number".toList] ∧
      ∀ v s, f.read v s = (readNumber v).map fun k => { s with number := k } :=
    ⟨_, rfl, rfl, fun _ _ => rfl⟩
  rw [← hnames] at hw
  obtain ⟨x, _, rest, rfl, hp, hq⟩ := record_inField orderless hf h hw
  obtain ⟨k, -, rfl⟩ := (take_eq_some_iff hread).mp hp
  rw [hq, take_eq_some_iff hread]
  simp only [← readNumber_eq_ok_iff, eq_comm (a := q)]

namespace Page

/-- The page with another number for one panel. -/
def renumber (page : Page) (i : Nat) (k : Int) : Page :=
  { page with panels := page.panels.modify i fun p => { p with number := k } }

/-- `w` is `v` but for the value that is given for the number of one panel, which is `y`. -/
def Renumbered (n : Notation) (i : Nat) (y v w : Value) : Prop :=
  InField n ["panels"] 8 (AtItem i (InField n ["number"] 0 fun _ z => z = y)) v w

theorem renumber_eq_set {page : Page} {i : Nat} {p : Panel} (h : page.panels[i]? = some p) (k : Int) :
    page.renumber i k = { page with panels := page.panels.set i { p with number := k } } := by
  rw [renumber, List.modify_eq_set_getElem?, h]
  rfl

/-- A page of which one panel is given another value for its number. -/
theorem ofValue_renumbered {page : Page} {i : Nat} (h : ofValue n v = .ok page)
    (hw : Renumbered n i y v w) (page' : Page) :
    ofValue n w = .ok page' ↔ ∃ k, IsNumber y k ∧ page' = page.renumber i k := by
  obtain ⟨f, hf, hnames, hread⟩ : ∃ f, (record n).fields[8]? = some f ∧ f.names = ["panels".toList] ∧
      ∀ v s, f.read v s = (Shape.list (Shape.record n "Panel" (Panel.record n)) v).map fun ps =>
        { s with panels := ps } := ⟨_, rfl, rfl, fun _ _ => rfl⟩
  rw [Renumbered, ← hnames] at hw
  obtain ⟨x, z, rest, ⟨items, a, b, hx, ha, hz, hab⟩, hpage, hpage'⟩ :=
    record_inField orderless hf h hw
  obtain ⟨ps, hps, rfl⟩ := (take_list_eq_some_iff hread hx).mp hpage
  obtain ⟨p, hp, hread'⟩ := forall₂_getElem? hps ha
  have hi : i < items.length := (List.getElem?_eq_some_iff.mp ha).1
  rw [ofValue, hpage', take_list_eq_some_iff hread hz]
  have hset : ∀ k, renumber { rest with panels := ps } i k =
      { rest with panels := ps.set i { p with number := k } } := renumber_eq_set hp
  simp only [forall₂_set_iff hps hi, Panel.ofValue_inField_number hread' hab, hset]
  constructor
  · rintro ⟨_, ⟨_, ⟨k, hk, rfl⟩, rfl⟩, rfl⟩
    exact ⟨k, hk, rfl⟩
  · rintro ⟨k, hk, rfl⟩
    exact ⟨_, ⟨_, ⟨k, hk, rfl⟩, rfl⟩, rfl⟩

/-! ### Documents and JSON -/

variable {page : Page} {i : Nat}

/-- A document of which one panel is given another value for its number is one of the page with the
number that the value stands for, or of the wrong shape. -/
theorem parse_renumbered {t t' : Text} (h : Page.parse t = .ok page)
    (ht' : Edited (Renumbered .yaml i y) t t') :
    (∀ page', Page.parse t' = .ok page' ↔ ∃ k, IsNumber y k ∧ page' = page.renumber i k) ∧
      ((∃ e, Page.parse t' = .error (.shape e)) ↔ ¬ ∃ k, IsNumber y k) := by
  obtain ⟨d, v, d', w, hd, hv, hd', hw, hR⟩ := ht'
  obtain ⟨hpanels, hread⟩ := (parse_eq_ok_iff hd hv).mp h
  have hpanels' : HoldsPanels w := by
    obtain hR | _ := hR
    exact holdsPanels_of_within hpanels hR
  have hparse := parse_of_holdsPanels hd' hw hpanels'
  have hok : ∀ page', Page.parse t' = .ok page' ↔ ∃ k, IsNumber y k ∧ page' = page.renumber i k := by
    intro page'
    rw [parse_eq_ok_iff hd' hw, ofValue_renumbered hread hR]
    exact and_iff_right hpanels'
  refine ⟨hok, ?_⟩
  cases hw' : ofValue .yaml w with
  | ok page' =>
    rw [hw'] at hparse
    obtain ⟨k, hk, -⟩ := (hok page').mp hparse
    refine ⟨?_, fun hno => absurd ⟨k, hk⟩ hno⟩
    rintro ⟨e, he⟩
    cases hparse.symm.trans he
  | error e =>
    rw [hw'] at hparse
    refine ⟨?_, fun _ => ⟨e, hparse⟩⟩
    rintro - ⟨k, hk⟩
    cases hparse.symm.trans ((hok _).mpr ⟨k, hk, rfl⟩)

theorem ofJson?_renumbered {r r' : Json.Reading} (hv : r.toValue? = some v)
    (hw : r'.toValue? = some w) (h : Page.ofJson? r = some page) (hR : Renumbered .json i y v w)
    (page' : Page) :
    Page.ofJson? r' = some page' ↔ ∃ k, IsNumber y k ∧ page' = page.renumber i k := by
  rw [ofJson?, hv, Option.bind_some] at h
  rw [ofJson?, hw, Option.bind_some, ← ofValue_renumbered (eq_ok_of_toOption h) hR]
  cases ofValue .json w <;> simp [Except.toOption]

end Page

/-! ### The number in the prompt -/

/-- The text of an integer of 64 bits is its number and no other's. -/
theorem Schema.isNumber_ofInt {k : Int} (h : -0x8000000000000000 ≤ k ∧ k < 0x8000000000000000)
    (m : Int) : IsNumber (.string (Text.ofInt k)) m ↔ m = k := by
  have hnumeral : Text.toInt? (Text.trim (Text.ofInt k)) = some k := by
    rw [(Text.bare_ofInt k).trim_eq, Text.toInt?_ofInt]
  constructor
  · rintro (_ | ⟨hm, -⟩)
    rw [← Text.toInt?_eq_some_iff, hnumeral] at hm
    exact (Option.some.inj hm).symm
  · rintro rfl
    exact .text (Text.toInt?_eq_some_iff.mp hnumeral) h

/-- The block of a panel begins with the text of its number. -/
theorem Panel.number_in_block (p : Panel) :
    ∃ rest : Text, p.block = "Panel ".toList ++ Text.ofInt p.number ++ " (位置: ".toList ++ rest := by
  rw [p.block_eq_document, View.document, List.flatten_cons, List.flatten_cons, List.flatten_cons,
    ← List.append_assoc, ← List.append_assoc]
  exact ⟨_, rfl⟩

namespace Page

/-- **The numbers of panels are read exactly.** A value is read as a number iff it is an integer of 64
bits, or the numeral of one between white space. So a document of a page of which one panel is given
another value for its number is one of the page with the number that the value stands for, and of the
wrong shape if it stands for none; and so it is in JSON, where a panel may also be a list. The text
that the prompt shows for a number is read back to it: as a text, and as it stands in either
notation. -/
theorem numbers_read_exactly :
    (∀ v k, readNumber v = .ok k ↔ IsNumber v k) ∧
    (∀ t t' page i y, Page.parse t = .ok page → Edited (Renumbered .yaml i y) t t' →
      (∀ page', Page.parse t' = .ok page' ↔ ∃ k, IsNumber y k ∧ page' = page.renumber i k) ∧
        ((∃ e, Page.parse t' = .error (.shape e)) ↔ ¬ ∃ k, IsNumber y k)) ∧
    (∀ (r r' : Json.Reading) v w page i y, r.toValue? = some v → r'.toValue? = some w →
      Page.ofJson? r = some page → Renumbered .json i y v w →
      ∀ page', Page.ofJson? r' = some page' ↔ ∃ k, IsNumber y k ∧ page' = page.renumber i k) ∧
    ∀ p : Panel, -0x8000000000000000 ≤ p.number ∧ p.number < 0x8000000000000000 →
      (∃ rest : Text,
        p.block = "Panel ".toList ++ Text.ofInt p.number ++ " (位置: ".toList ++ rest) ∧
      (∀ k, IsNumber (.string (Text.ofInt p.number)) k ↔ k = p.number) ∧
      Yaml.Scalar.ofPlain? (Text.ofInt p.number) = some (.int p.number) ∧
      Json.Number.ofSpelling? (Text.ofInt p.number) = some (.int p.number) := by
  refine ⟨fun _ _ => readNumber_eq_ok_iff, fun _ _ _ _ _ h ht' => parse_renumbered h ht',
    fun _ _ _ _ _ _ _ hv hw h hR page' => ofJson?_renumbered hv hw h hR page', fun p hp => ?_⟩
  exact ⟨p.number_in_block, isNumber_ofInt hp, Yaml.Scalar.ofPlain?_ofInt hp,
    Json.ofSpelling?_ofInt hp⟩

/-! ### A page with one panel -/

/-- A document of one panel with nothing but a number. -/
def numbered (number : Text) : Text :=
  "comic_page:\n  panels:\n  - number: " ++ number

/-- The content of the document with the value of the number. -/
def numberedValue (number : Value) : Value :=
  .mapping [(.string "panels", .sequence [.mapping [(.string "number", number)]])]

/-- The document's value. -/
def numberedDocument (number : Value) : Value :=
  .mapping [(.string "comic_page", numberedValue number)]

/-- The events of the document with the scalar of the number. -/
def numberedEvents (number : Text) (plain : Bool) : List Yaml.Numbered :=
  [.mappingStart none, .scalar none "comic_page" true, .mappingStart none,
    .scalar none "panels" true, .sequenceStart none, .mappingStart none,
    .scalar none "number" true, .scalar none number plain, .mappingEnd, .sequenceEnd, .mappingEnd,
    .mappingEnd]

theorem isDocument_numbered {number : Text} (t : Text) (plain : Bool) {v : Value}
    (hevents : Yaml.events? (numbered number) = some (numberedEvents t plain, []))
    (hv : (if plain = true then Yaml.Scalar.ofPlain? t else some (.string t)) = some v) :
    IsDocument (numbered number) (numberedDocument v) := by
  have hfirst : 'c' ∈ numbered number := List.mem_append_left _ (by decide)
  refine ⟨fun hblank => absurd (hblank 'c' hfirst) (by decide), ?_⟩
  rw [Value.parse?_of_events hevents]
  have hplain : ∀ t ∈ (["comic_page", "panels", "number"] : List Text),
      Yaml.Scalar.ofPlain? t = some (.string t) := by
    simp only [List.forall_mem_cons, List.not_mem_nil, false_implies, implies_true, and_true]
    and_intros <;> rfl
  simp at hplain
  simp [numberedEvents, numberedDocument, numberedValue, Yaml.Reader.read?, Yaml.maxDepth,
    Yaml.Reader.node, Yaml.Reader.entries, Yaml.Reader.items, Yaml.Reader.pendingTag?,
    Yaml.Reader.scalar?, Value.hasKey, hplain, hv]

theorem holdsPage_numbered (number : Value) :
    HoldsPage (numberedDocument number) (numberedValue number) :=
  ⟨⟨[], [], rfl, nofun⟩, nofun⟩

theorem renumbered_numbered (y : Value) :
    Renumbered .yaml 0 y (numberedValue (.int 1)) (numberedValue y) :=
  .named ⟨[], _, _, _, [], rfl, rfl, rfl, _, _, _, rfl, rfl, rfl,
    .named ⟨[], _, _, _, [], rfl, rfl, rfl, rfl⟩⟩

/-- The content of the page in JSON, with a list for the panel. -/
def listed (number : Json.Reading) : Json.Reading :=
  .object [(some "panels", .array [.array [number] true] true)] true

/-- What the content says. -/
def listedValue (number : Value) : Value :=
  .mapping [(.string "panels", .sequence [.sequence [number]])]

theorem renumbered_listed (y : Value) :
    Renumbered .json 0 y (listedValue (.int 1)) (listedValue y) :=
  .named ⟨[], _, _, _, [], rfl, rfl, rfl, _, _, _, rfl, rfl, rfl,
    @InField.listed _ _ _ _ _ _ [] [] rfl rfl rfl⟩

/-- A numeral with zeros between white space, the first integer that is too great, a numeral with a
sign in a list of JSON, and the number of a panel in its block. -/
theorem numbers_of_spellings :
    (∃ page, Page.parse (numbered "1") = .ok page ∧
      Page.parse (numbered "' -0042 '") = .ok (page.renumber 0 (-42)) ∧
      ∃ e, Page.parse (numbered "9223372036854775808") = .error (.shape e)) ∧
    (∃ page, Page.ofJson? (listed (.number "1")) = some page ∧
      Page.ofJson? (listed (.string (some "+07"))) = some (page.renumber 0 7)) ∧
    ∃ rest : Text, Panel.block { number := -42 } = "Panel -42 (位置: ".toList ++ rest ∧
      readNumber (.string "-42") = .ok (-42) := by
  obtain ⟨hread, hdocument, hjson, hshown⟩ := numbers_read_exactly
  have hone : IsDocument (numbered "1") (numberedDocument (.int 1)) :=
    isDocument_numbered "1" true (by decide +kernel) rfl
  have hzeros : IsDocument (numbered "' -0042 '") (numberedDocument (.string " -0042 ")) :=
    isDocument_numbered " -0042 " false (by decide +kernel) rfl
  have hgreat : IsDocument (numbered "9223372036854775808")
      (numberedDocument (.int 9223372036854775808)) :=
    isDocument_numbered "9223372036854775808" true (by decide +kernel) rfl
  have hparse : ∃ page, Page.parse (numbered "1") = .ok page := by
    rw [parse_of_isDocument hone]
    exact ⟨_, rfl⟩
  obtain ⟨page, hparse⟩ := hparse
  have hedited : ∀ {number : Text} {y : Value}, IsDocument (numbered number) (numberedDocument y) →
      Edited (Renumbered .yaml 0 y) (numbered "1") (numbered number) := fun h =>
    ⟨_, _, _, _, hone, holdsPage_numbered _, h, holdsPage_numbered _, renumbered_numbered _⟩
  refine ⟨⟨page, hparse, ?_, ?_⟩, ?_, ?_⟩
  · have hnumeral : IsNumber (.string " -0042 ") (-42) := (hread _ _).mp rfl
    exact ((hdocument _ _ page 0 _ hparse (hedited hzeros)).1 _).mpr ⟨-42, hnumeral, rfl⟩
  · refine (hdocument _ _ page 0 _ hparse (hedited hgreat)).2.mpr ?_
    rintro ⟨k, hk⟩
    cases (hread _ _).mpr hk
  · have hlisted : ∃ page, Page.ofJson? (listed (.number "1")) = some page := ⟨_, rfl⟩
    obtain ⟨page', hlisted⟩ := hlisted
    have hplus : IsNumber (.string "+07") 7 := (hread _ _).mp rfl
    have hedit := hjson _ (listed (.string (some "+07"))) _ _ page' 0 _ rfl rfl hlisted
      (renumbered_listed _)
    exact ⟨page', hlisted, (hedit _).mpr ⟨7, hplus, rfl⟩⟩
  · obtain ⟨⟨rest, hblock⟩, hnumber, -⟩ := hshown { number := -42 } (by decide)
    have htext : Text.ofInt (-42) = "-42".toList := by decide +kernel
    rw [htext] at hblock hnumber
    exact ⟨rest, hblock, (hread _ _).mpr ((hnumber (-42)).mpr rfl)⟩

end Page

end MangaPress
