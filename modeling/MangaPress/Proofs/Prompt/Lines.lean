/-
# A prompt tells what it shows

The prompt depends on nothing but the view of a page (`Page.view`). The other way round, where no
text of a view holds a line break, its document is a row of lines (`Page.View.lines`), and the row
can be taken apart: every line of a block has its own label, and the line after a block tells
whether another block or the end of the list follows. So two such views with one document are equal,
however many characters, panels and appearances they have, none included.

Key definitions: `Page.View.texts`, `Page.View.SingleLine`, `Page.View.lines`.
Key theorems: `Page.View.document_eq_unlines`, `Page.View.lines_inj`, `Page.prompt_eq_iff_view_eq`.
-/
import MangaPress.Proofs.Prompt.Document
import MangaPress.Proofs.Text.Numeral

namespace MangaPress

namespace Text

/-- The text of lines. -/
def unlines (lines : List Text) : Text :=
  List.intercalate ['\n'] lines

theorem unlines_append {ls ms : List Text} (hl : ls ≠ []) (hm : ms ≠ []) :
    unlines (ls ++ ms) = unlines ls ++ '\n' :: unlines ms := by
  induction ls with
  | nil => exact absurd rfl hl
  | cons l ls ih =>
    unfold unlines at ih ⊢
    cases ls with
    | nil =>
      rw [List.singleton_append, List.intercalate_cons_of_ne_nil hm, List.intercalate_singleton,
        List.append_assoc, List.singleton_append]
    | cons k ls =>
      have hk := ih (List.cons_ne_nil k ls)
      rw [List.cons_append] at hk
      rw [List.cons_append, List.cons_append, List.intercalate_cons_cons, hk,
        List.intercalate_cons_cons, List.append_assoc (l ++ ['\n'])]

/-- Lines without line breaks are known by their text. -/
theorem unlines_inj {ls ms : List Text} (hl : ls ≠ []) (hm : ms ≠ []) (nl : ∀ l ∈ ls, '\n' ∉ l)
    (nm : ∀ m ∈ ms, '\n' ∉ m) (h : unlines ls = unlines ms) : ls = ms := by
  have hs := List.splitOn_intercalate '\n' nl hl
  rw [show List.intercalate ['\n'] ls = List.intercalate ['\n'] ms from h,
    List.splitOn_intercalate '\n' nm hm] at hs
  exact hs.symm

end Text

/-! ### Blocks of lines -/

section Blocks

variable {α : Type} {block : α → List Text}

/-- The blocks of a list after one another; an empty list leaves an empty line. -/
def adjoined (block : α → List Text) : List α → List Text
  | [] => [[]]
  | x :: xs => (x :: xs).flatMap block

/-- The blocks of a list with an empty line between neighbours, and for an empty list. -/
def spaced (block : α → List Text) : List α → List Text
  | [] => [[]]
  | x :: xs => block x ++ xs.flatMap fun y => [] :: block y

theorem adjoined_ne_nil (hb : ∀ x, block x ≠ []) : ∀ xs, adjoined block xs ≠ []
  | [] => List.cons_ne_nil _ _
  | x :: _ => fun h => hb x (List.append_eq_nil_iff.mp h).1

theorem spaced_ne_nil (hb : ∀ x, block x ≠ []) : ∀ xs, spaced block xs ≠ []
  | [] => List.cons_ne_nil _ _
  | x :: _ => fun h => hb x (List.append_eq_nil_iff.mp h).1

theorem unlines_adjoined (hb : ∀ x, block x ≠ []) : ∀ xs, Text.unlines (adjoined block xs) =
    List.intercalate ['\n'] (xs.map fun x => Text.unlines (block x))
  | [] => rfl
  | [x] => by simp [adjoined]
  | x :: y :: xs => by
    have ih := unlines_adjoined hb (y :: xs)
    have hne := adjoined_ne_nil hb (y :: xs)
    rw [show adjoined block (x :: y :: xs) = block x ++ adjoined block (y :: xs) from rfl,
      Text.unlines_append (hb x) hne, ih]
    simp

theorem unlines_spaced (hb : ∀ x, block x ≠ []) : ∀ xs, Text.unlines (spaced block xs) =
    List.intercalate ['\n', '\n'] (xs.map fun x => Text.unlines (block x))
  | [] => rfl
  | [x] => by simp [spaced]
  | x :: y :: xs => by
    have ih := unlines_spaced hb (y :: xs)
    have hne := spaced_ne_nil hb (y :: xs)
    rw [show spaced block (x :: y :: xs) = block x ++ ([[]] ++ spaced block (y :: xs)) from rfl,
      Text.unlines_append (hb x) (by simp), Text.unlines_append (List.cons_ne_nil _ _) hne, ih]
    simp [Text.unlines]

/-- A block at the beginning of a row of lines can be told, and where it ends. -/
def Separates (block : α → List Text) : Prop :=
  ∀ ⦃x y : α⦄ ⦃r s : List Text⦄, block x ++ r = block y ++ s → x = y ∧ r = s

theorem flatMap_append_inj (hb : Separates block) {r s : List Text}
    (hr : ∀ x t, block x ++ t ≠ r) (hs : ∀ x t, block x ++ t ≠ s) :
    ∀ {xs ys : List α}, xs.flatMap block ++ r = ys.flatMap block ++ s → xs = ys ∧ r = s
  | [], [], h => ⟨rfl, h⟩
  | [], y :: ys, h => by
    rw [List.flatMap_cons, List.append_assoc] at h
    exact absurd h.symm (hr y _)
  | x :: xs, [], h => by
    rw [List.flatMap_cons, List.append_assoc] at h
    exact absurd h (hs x _)
  | x :: xs, y :: ys, h => by
    rw [List.flatMap_cons, List.flatMap_cons, List.append_assoc, List.append_assoc] at h
    obtain ⟨rfl, hrest⟩ := hb h
    obtain ⟨rfl, hend⟩ := flatMap_append_inj hb hr hs hrest
    exact ⟨rfl, hend⟩

/-- Adjoined blocks, none of them beginning with an empty line, are told apart if no block begins
what follows them. -/
theorem adjoined_append_inj (hb : Separates block) (h0 : ∀ x t u, block x ++ t ≠ [] :: u)
    {r s : List Text} (hr : ∀ x t, block x ++ t ≠ r) (hs : ∀ x t, block x ++ t ≠ s) :
    ∀ {xs ys : List α}, adjoined block xs ++ r = adjoined block ys ++ s → xs = ys ∧ r = s
  | [], [], h => ⟨rfl, (List.cons.inj h).2⟩
  | [], y :: ys, h => by
    rw [adjoined, adjoined, List.flatMap_cons, List.append_assoc] at h
    exact absurd h.symm (h0 y _ _)
  | x :: xs, [], h => by
    rw [adjoined, adjoined, List.flatMap_cons, List.append_assoc] at h
    exact absurd h (h0 x _ _)
  | x :: xs, y :: ys, h => flatMap_append_inj hb hr hs h

/-- The same of spaced blocks, where an empty line and a block must not begin what follows. -/
theorem spaced_append_inj (hb : Separates block) (h0 : ∀ x t u, block x ++ t ≠ [] :: u)
    {r s : List Text} (hr : ∀ x t, [] :: (block x ++ t) ≠ r)
    (hs : ∀ x t, [] :: (block x ++ t) ≠ s) :
    ∀ {xs ys : List α}, spaced block xs ++ r = spaced block ys ++ s → xs = ys ∧ r = s
  | [], [], h => ⟨rfl, (List.cons.inj h).2⟩
  | [], y :: ys, h => by
    rw [spaced, spaced, List.append_assoc] at h
    exact absurd h.symm (h0 y _ _)
  | x :: xs, [], h => by
    rw [spaced, spaced, List.append_assoc] at h
    exact absurd h (h0 x _ _)
  | x :: xs, y :: ys, h => by
    rw [spaced, spaced, List.append_assoc, List.append_assoc] at h
    obtain ⟨rfl, hrest⟩ := hb h
    have hb' : Separates fun z => [] :: block z := fun _ _ _ _ he => hb (List.cons.inj he).2
    obtain ⟨rfl, hend⟩ := flatMap_append_inj hb' hr hs hrest
    exact ⟨rfl, hend⟩

theorem forall_mem_adjoined {P : Text → Prop} (h0 : P []) {xs : List α}
    (h : ∀ x ∈ xs, ∀ l ∈ block x, P l) : ∀ l ∈ adjoined block xs, P l := by
  intro l hl
  cases xs with
  | nil => rwa [List.mem_singleton.mp hl]
  | cons x xs =>
    obtain ⟨y, hy, hly⟩ := List.mem_flatMap.mp hl
    exact h y hy l hly

theorem forall_mem_spaced {P : Text → Prop} (h0 : P []) {xs : List α}
    (h : ∀ x ∈ xs, ∀ l ∈ block x, P l) : ∀ l ∈ spaced block xs, P l := by
  intro l hl
  cases xs with
  | nil => rwa [List.mem_singleton.mp hl]
  | cons x xs =>
    rcases List.mem_append.mp hl with hl | hl
    · exact h x List.mem_cons_self l hl
    · obtain ⟨y, hy, hly⟩ := List.mem_flatMap.mp hl
      rcases List.mem_cons.mp hly with rfl | hly
      · exact h0
      · exact h y (List.mem_cons_of_mem _ hy) l hly

end Blocks

/-! ### The texts of a view -/

def Appearance.View.texts (a : Appearance.View) : List Text :=
  [a.name, a.position, a.emotion, a.facing, a.shot, a.pose, a.firstLine]

def CharacterDesign.View.texts (c : CharacterDesign.View) : List Text :=
  [c.name, c.basePrompt]

def Panel.View.texts (p : Panel.View) : List Text :=
  [p.pagePosition, p.background, p.description, p.cameraAngle] ++
    p.characters.flatMap Appearance.View.texts

/-- Every text that a prompt shows of a page. -/
def Page.View.texts (v : Page.View) : List Text :=
  [v.language, v.style, v.colorMode, v.aspectRatio, v.writingMode, v.instructions,
    v.layoutConstraints] ++
  v.characters.flatMap CharacterDesign.View.texts ++
  v.panels.flatMap Panel.View.texts

/-- No text holds a line break. -/
def Page.View.SingleLine (v : Page.View) : Prop :=
  ∀ t ∈ v.texts, '\n' ∉ t

/-! ### The lines of a view -/

def Appearance.View.lines (a : Appearance.View) : List Text := [
  "  - Character: " ++ a.name,
  "    Position: " ++ a.position,
  "    Emotion: " ++ a.emotion,
  "    Facing: " ++ a.facing,
  "    Shot type: " ++ a.shot,
  "    Pose: " ++ a.pose,
  "    Dialogue: \"" ++ a.firstLine ++ "\""]

def CharacterDesign.View.lines (c : CharacterDesign.View) : List Text := [
  "Character: " ++ c.name,
  c.basePrompt]

def Panel.View.lines (p : Panel.View) : List Text :=
  ["Panel " ++ Text.ofInt p.number ++ " (位置: " ++ p.pagePosition ++ "):",
    "  Background: " ++ p.background,
    "  Scene description: " ++ p.description,
    "  Characters:"] ++
  adjoined Appearance.View.lines p.characters ++
  ["  Camera angle: " ++ p.cameraAngle]

/-- The lines of a page up to the closing paragraph. -/
def Page.View.lines (v : Page.View) : List Text :=
  ([ "Generate a complete manga page following these specifications:",
    [],
    "=== LAYOUT CONSTRAINTS ===",
    v.layoutConstraints,
    [],
    "=== STYLE SPECIFICATIONS ===",
    "- Language: " ++ v.language,
    "- Art style: " ++ v.style,
    "- Color mode: " ++ v.colorMode,
    "- Aspect ratio: " ++ v.aspectRatio,
    "- Writing mode: " ++ v.writingMode,
    [],
    "=== INSTRUCTIONS ===",
    v.instructions,
    [],
    "=== CHARACTER DESIGNS ==="] : List Text) ++
  spaced CharacterDesign.View.lines v.characters ++
  [[], "=== PANEL DETAILS ==="] ++
  spaced Panel.View.lines v.panels

theorem Appearance.View.lines_ne_nil (a : Appearance.View) : a.lines ≠ [] :=
  List.cons_ne_nil _ _

theorem CharacterDesign.View.lines_ne_nil (c : CharacterDesign.View) : c.lines ≠ [] :=
  List.cons_ne_nil _ _

theorem Panel.View.lines_ne_nil (p : Panel.View) : p.lines ≠ [] :=
  List.cons_ne_nil _ _

theorem Appearance.View.document_eq_unlines (a : Appearance.View) :
    a.document = Text.unlines a.lines := by
  unfold document lines Text.unlines
  simp

theorem CharacterDesign.View.document_eq_unlines (c : CharacterDesign.View) :
    c.document = Text.unlines c.lines := by
  unfold document lines Text.unlines
  simp

theorem Panel.View.document_eq_unlines (p : Panel.View) :
    p.document = Text.unlines p.lines := by
  have hc : Text.unlines (adjoined Appearance.View.lines p.characters) =
      List.intercalate ['\n'] (p.characters.map Appearance.View.document) := by
    rw [unlines_adjoined Appearance.View.lines_ne_nil]
    exact congrArg _ (List.map_congr_left fun a _ => a.document_eq_unlines.symm)
  have hne := adjoined_ne_nil Appearance.View.lines_ne_nil p.characters
  unfold document lines
  rw [Text.unlines_append (by simp) (List.cons_ne_nil _ _),
    Text.unlines_append (List.cons_ne_nil _ _) hne, hc]
  simp [Text.unlines]

theorem Page.View.document_eq_unlines (v : Page.View) :
    v.document = Text.unlines v.lines ++ ("\n\n" ++ Page.directives) := by
  have hc : Text.unlines (spaced CharacterDesign.View.lines v.characters) =
      List.intercalate "\n\n" (v.characters.map CharacterDesign.View.document) := by
    rw [unlines_spaced CharacterDesign.View.lines_ne_nil]
    exact congrArg _ (List.map_congr_left fun c _ => c.document_eq_unlines.symm)
  have hp : Text.unlines (spaced Panel.View.lines v.panels) =
      List.intercalate "\n\n" (v.panels.map Panel.View.document) := by
    rw [unlines_spaced Panel.View.lines_ne_nil]
    exact congrArg _ (List.map_congr_left fun p _ => p.document_eq_unlines.symm)
  have hcne := spaced_ne_nil CharacterDesign.View.lines_ne_nil v.characters
  have hpne := spaced_ne_nil Panel.View.lines_ne_nil v.panels
  unfold document documentWith lines
  rw [Text.unlines_append (by simp) hpne, Text.unlines_append (by simp) (List.cons_ne_nil _ _),
    Text.unlines_append (List.cons_ne_nil _ _) hcne, hc, hp]
  generalize directives = closing
  generalize List.intercalate "\n\n" (v.characters.map CharacterDesign.View.document) = designs
  generalize List.intercalate "\n\n" (v.panels.map Panel.View.document) = panels
  simp only [Text.unlines, List.intercalate_cons_cons, List.intercalate_singleton,
    List.flatten_cons, List.flatten_nil, List.append_assoc, List.cons_append, List.nil_append,
    List.append_nil]
  rfl

theorem Appearance.View.single_lines {a : Appearance.View} (h : ∀ t ∈ a.texts, '\n' ∉ t) :
    ∀ l ∈ a.lines, '\n' ∉ l := by
  unfold texts at h
  unfold lines
  simp_all

theorem CharacterDesign.View.single_lines {c : CharacterDesign.View}
    (h : ∀ t ∈ c.texts, '\n' ∉ t) : ∀ l ∈ c.lines, '\n' ∉ l := by
  unfold texts at h
  unfold lines
  simp_all

theorem break_not_mem_ofInt (n : Int) : '\n' ∉ Text.ofInt n := by
  intro h
  rcases Text.mem_ofInt h with h | h
  · exact absurd h (by decide)
  · exact absurd h (by decide)

theorem Panel.View.single_lines {p : Panel.View} (h : ∀ t ∈ p.texts, '\n' ∉ t) :
    ∀ l ∈ p.lines, '\n' ∉ l := by
  have hc : ∀ l ∈ adjoined Appearance.View.lines p.characters, '\n' ∉ l := by
    refine forall_mem_adjoined List.not_mem_nil fun a ha => Appearance.View.single_lines ?_
    exact fun t ht => h t (List.mem_append_right _ (List.mem_flatMap.mpr ⟨a, ha, ht⟩))
  have hn := break_not_mem_ofInt p.number
  unfold texts at h
  unfold lines
  rw [List.forall_mem_append, List.forall_mem_append]
  refine ⟨⟨?_, hc⟩, ?_⟩ <;> simp_all

theorem Page.View.single_lines {v : Page.View} (h : v.SingleLine) : ∀ l ∈ v.lines, '\n' ∉ l := by
  have hc : ∀ l ∈ spaced CharacterDesign.View.lines v.characters, '\n' ∉ l := by
    refine forall_mem_spaced List.not_mem_nil fun c hc => CharacterDesign.View.single_lines ?_
    exact fun t ht => h t (List.mem_append_left _
      (List.mem_append_right _ (List.mem_flatMap.mpr ⟨c, hc, ht⟩)))
  have hp : ∀ l ∈ spaced Panel.View.lines v.panels, '\n' ∉ l := by
    refine forall_mem_spaced List.not_mem_nil fun p hp => Panel.View.single_lines ?_
    exact fun t ht => h t (List.mem_append_right _ (List.mem_flatMap.mpr ⟨p, hp, ht⟩))
  have hopening : '\n' ∉
      ("Generate a complete manga page following these specifications:" : Text) := by
    decide +kernel
  unfold SingleLine texts at h
  unfold lines
  generalize ("Generate a complete manga page following these specifications:" : Text) = opening
    at hopening ⊢
  rw [List.forall_mem_append, List.forall_mem_append, List.forall_mem_append]
  refine ⟨⟨⟨?_, hc⟩, ?_⟩, hp⟩ <;> simp_all

/-! ### Taking the lines apart -/

theorem Appearance.View.separates : Separates Appearance.View.lines := by
  intro a b r s h
  unfold lines at h
  simp only [List.cons_append, List.nil_append, List.cons.injEq, List.append_cancel_left_eq,
    List.append_cancel_right_eq] at h
  obtain ⟨h1, h2, h3, h4, h5, h6, h7, hrest⟩ := h
  cases a
  cases b
  simp_all

theorem CharacterDesign.View.separates : Separates CharacterDesign.View.lines := by
  intro c d r s h
  unfold lines at h
  simp only [List.cons_append, List.nil_append, List.cons.injEq, List.append_cancel_left_eq] at h
  obtain ⟨h1, h2, hrest⟩ := h
  cases c
  cases d
  simp_all

theorem space_not_mem_ofInt (n : Int) : ' ' ∉ Text.ofInt n := by
  intro h
  rcases Text.mem_ofInt h with h | h
  · exact absurd h (by decide)
  · exact absurd h (by decide)

/-- The number of a panel ends at the first space of its line. -/
theorem Panel.View.separates : Separates Panel.View.lines := by
  intro p q r s h
  unfold lines at h
  simp only [List.append_assoc, List.cons_append, List.nil_append, List.cons.injEq,
    List.append_cancel_left_eq, true_and] at h
  obtain ⟨hhead, hback, hdescription, hrest⟩ := h
  obtain ⟨hnumber, hposition⟩ := Text.append_cons_inj (space_not_mem_ofInt _)
    (space_not_mem_ofInt _) hhead
  have hbegin : ∀ (a : Appearance.View) (t : List Text) (u : Text) (us : List Text),
      a.lines ++ t ≠ ("  Camera angle: " ++ u) :: us := by
    intro a t u us he
    have hline := (List.cons.inj he).1
    simp at hline
  have hempty : ∀ (a : Appearance.View) (t u : List Text), a.lines ++ t ≠ [] :: u :=
    fun a t u he => List.cons_ne_nil _ _ (List.cons.inj he).1
  obtain ⟨hcharacters, hend⟩ := adjoined_append_inj Appearance.View.separates hempty
    (fun a t => hbegin a t _ _) (fun a t => hbegin a t _ _) hrest
  simp only [List.cons.injEq, List.append_cancel_left_eq] at hend
  obtain ⟨hangle, htail⟩ := hend
  cases p
  cases q
  simp_all [Text.ofInt_inj]

theorem Page.View.lines_inj {v w : Page.View} (h : v.lines = w.lines) : v = w := by
  unfold lines at h
  simp only [List.append_assoc, List.cons_append, List.nil_append, List.cons.injEq,
    List.append_cancel_left_eq, true_and] at h
  obtain ⟨hlayout, hlanguage, hstyle, hcolor, haspect, hwriting, hinstructions, hrest⟩ := h
  -- A design does not begin like the next section, nor a panel like the end of the page.
  have hdesign : ∀ (c : CharacterDesign.View) (t u : List Text),
      [] :: (c.lines ++ t) ≠ [] :: "=== PANEL DETAILS ===" :: u := by
    intro c t u he
    have hline := (List.cons.inj (List.cons.inj he).2).1
    simp at hline
  obtain ⟨hcharacters, hsection⟩ := spaced_append_inj CharacterDesign.View.separates
    (fun _ _ _ he => List.cons_ne_nil _ _ (List.cons.inj he).1)
    (fun c t => hdesign c t _) (fun c t => hdesign c t _) hrest
  have hpanels := (List.cons.inj (List.cons.inj hsection).2).2
  rw [← List.append_nil (spaced _ v.panels), ← List.append_nil (spaced _ w.panels)] at hpanels
  obtain ⟨hpanels, -⟩ := spaced_append_inj Panel.View.separates
    (fun _ _ _ he => List.cons_ne_nil _ _ (List.cons.inj he).1)
    (fun _ _ => List.cons_ne_nil _ _) (fun _ _ => List.cons_ne_nil _ _) hpanels
  cases v
  cases w
  simp_all

/-- A document of single-line texts is known by its lines. -/
theorem Page.View.document_inj {v w : Page.View} (hv : v.SingleLine) (hw : w.SingleLine)
    (h : v.document = w.document) : v = w := by
  rw [document_eq_unlines, document_eq_unlines] at h
  have hl := List.append_cancel_right h
  have hne : ∀ u : Page.View, u.lines ≠ [] := fun _ => List.cons_ne_nil _ _
  exact lines_inj (Text.unlines_inj (hne v) (hne w) (single_lines hv) (single_lines hw) hl)

/-- **The prompt shows the view, and nothing else.** Pages with one view have one prompt. Pages
whose texts hold no line breaks and that have one prompt have one view: no panel, character or text
is lost, merged with another or taken for another. -/
theorem Page.prompt_eq_iff_view_eq (p q : Page) :
    (p.view = q.view → p.prompt = q.prompt) ∧
    (p.view.SingleLine → q.view.SingleLine → (p.prompt = q.prompt ↔ p.view = q.view)) := by
  have hview : p.view = q.view → p.prompt = q.prompt := by
    intro h
    rw [p.prompt_eq_document, q.prompt_eq_document, h]
  refine ⟨hview, fun hp hq => ⟨fun h => ?_, hview⟩⟩
  rw [p.prompt_eq_document, q.prompt_eq_document] at h
  exact Page.View.document_inj hp hq h

/-- A page without characters is told from one whose only character has neither name nor look. -/
theorem Page.prompt_ne_of_nameless_character :
    ({} : Page).view.SingleLine ∧ ({ characters := [{}] } : Page).view.SingleLine ∧
    ({} : Page).prompt ≠ ({ characters := [{}] } : Page).prompt := by
  have hp : ({} : Page).view.SingleLine := by
    unfold Page.View.SingleLine
    decide +kernel
  have hq : ({ characters := [{}] } : Page).view.SingleLine := by
    unfold Page.View.SingleLine
    decide +kernel
  refine ⟨hp, hq, fun h => ?_⟩
  have hview := ((Page.prompt_eq_iff_view_eq _ _).2 hp hq).mp h
  exact absurd (congrArg Page.View.characters hview) (by decide)

end MangaPress
