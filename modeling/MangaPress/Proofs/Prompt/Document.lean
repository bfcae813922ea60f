/-
# The prompt is a plain document

The templates of a prompt have no say in what it reads: `Page.prompt` is `Page.View.document`, which
puts fixed text and the texts of the page one after another. A view holds what a prompt shows of a
page: the defaulted texts, the numbers of the panels, and of each appearance the first line of
speech. No text of a page is read as a template, on none of the three levels
(`Appearance.block_eq_document`, `Panel.block_eq_document`, `Page.prompt_eq_document`).

Key definitions: `Page.View`, `Page.view`, `Page.View.document`.
-/
import MangaPress.Page.Prompt
import MangaPress.Proofs.Template
import MangaPress.Proofs.Text.Split

namespace MangaPress

/-! ### What a prompt shows -/

/-- What a prompt shows of an appearance. -/
structure Appearance.View where
  name : Text
  position : Text
  emotion : Text
  facing : Text
  shot : Text
  pose : Text
  firstLine : Text
deriving Repr, DecidableEq

/-- What a prompt shows of a recurring character. -/
structure CharacterDesign.View where
  name : Text
  basePrompt : Text
deriving Repr, DecidableEq

/-- What a prompt shows of a panel. -/
structure Panel.View where
  number : Int
  pagePosition : Text
  background : Text
  description : Text
  cameraAngle : Text
  characters : List Appearance.View
deriving Repr, DecidableEq

/-- What a prompt shows of a page. -/
structure Page.View where
  language : Text
  style : Text
  colorMode : Text
  aspectRatio : Text
  writingMode : Text
  instructions : Text
  layoutConstraints : Text
  characters : List CharacterDesign.View
  panels : List Panel.View
deriving Repr, DecidableEq

def Appearance.view (a : Appearance) : Appearance.View where
  name := a.name
  position := a.positionText
  emotion := a.emotionText
  facing := a.facingText
  shot := a.shotText
  pose := a.poseText
  firstLine := a.firstLine

def CharacterDesign.view (c : CharacterDesign) : CharacterDesign.View where
  name := c.name
  basePrompt := c.basePromptText

def Panel.view (p : Panel) : Panel.View where
  number := p.number
  pagePosition := p.pagePositionText
  background := p.backgroundText
  description := p.descriptionText
  cameraAngle := p.cameraAngleText
  characters := p.characters.map Appearance.view

def Page.view (p : Page) : Page.View where
  language := p.languageText
  style := p.styleText
  colorMode := p.colorModeText
  aspectRatio := p.aspectRatioText
  writingMode := p.writingModeText
  instructions := p.instructionsText
  layoutConstraints := p.layoutConstraintsText
  characters := p.characters.map CharacterDesign.view
  panels := p.panels.map Panel.view

/-! ### The document -/

def Appearance.View.document (a : Appearance.View) : Text := List.flatten [
  "  - Character: ", a.name,
  "\n    Position: ", a.position,
  "\n    Emotion: ", a.emotion,
  "\n    Facing: ", a.facing,
  "\n    Shot type: ", a.shot,
  "\n    Pose: ", a.pose,
  "\n    Dialogue: \"", a.firstLine, "\""]

def CharacterDesign.View.document (c : CharacterDesign.View) : Text := List.flatten [
  "Character: ", c.name,
  "\n", c.basePrompt]

/-- The appearances of a panel stand on lines after one another. -/
def Panel.View.document (p : Panel.View) : Text := List.flatten [
  "Panel ", Text.ofInt p.number, " (位置: ", p.pagePosition, "):",
  "\n  Background: ", p.background,
  "\n  Scene description: ", p.description,
  "\n  Characters:",
  "\n", List.intercalate "\n" (p.characters.map Appearance.View.document),
  "\n  Camera angle: ", p.cameraAngle]

/-- The characters and the panels stand in their order, with a blank line between neighbours; the
last paragraph is the closing one. -/
def Page.View.documentWith (closing : Text) (v : Page.View) : Text := List.flatten [
  "Generate a complete manga page following these specifications:",
  "\n\n=== LAYOUT CONSTRAINTS ===",
  "\n", v.layoutConstraints,
  "\n\n=== STYLE SPECIFICATIONS ===",
  "\n- Language: ", v.language,
  "\n- Art style: ", v.style,
  "\n- Color mode: ", v.colorMode,
  "\n- Aspect ratio: ", v.aspectRatio,
  "\n- Writing mode: ", v.writingMode,
  "\n\n=== INSTRUCTIONS ===",
  "\n", v.instructions,
  "\n\n=== CHARACTER DESIGNS ===",
  "\n", List.intercalate "\n\n" (v.characters.map CharacterDesign.View.document),
  "\n\n=== PANEL DETAILS ===",
  "\n", List.intercalate "\n\n" (v.panels.map Panel.View.document),
  "\n\n", closing]

def Page.View.document (v : Page.View) : Text :=
  v.documentWith Page.directives

/-! ### The templates in pieces -/

open Template

def Appearance.segments : List Segment := [
  .literal "  - Character: ", .placeholder "name",
  .literal "\n    Position: ", .placeholder "panel_position",
  .literal "\n    Emotion: ", .placeholder "emotion",
  .literal "\n    Facing: ", .placeholder "facing",
  .literal "\n    Shot type: ", .placeholder "shot",
  .literal "\n    Pose: ", .placeholder "pose",
  .literal "\n    Dialogue: \"", .placeholder "dialogue", .literal "\""]

def CharacterDesign.segments : List Segment := [
  .literal "Character: ", .placeholder "name",
  .literal "\n", .placeholder "base_prompt"]

def Panel.segments : List Segment := [
  .literal "Panel ", .placeholder "number", .literal " (位置: ", .placeholder "page_position",
  .literal "):",
  .literal "\n  Background: ", .placeholder "background",
  .literal "\n  Scene description: ", .placeholder "description",
  .literal "\n  Characters:",
  .literal "\n", .placeholder "characters",
  .literal "\n  Camera angle: ", .placeholder "camera_angle"]

def Page.segments : List Segment := [
  .literal "Generate a complete manga page following these specifications:",
  .literal "\n\n=== LAYOUT CONSTRAINTS ===",
  .literal "\n", .placeholder "layout_constraints",
  .literal "\n\n=== STYLE SPECIFICATIONS ===",
  .literal "\n- Language: ", .placeholder "language",
  .literal "\n- Art style: ", .placeholder "style",
  .literal "\n- Color mode: ", .placeholder "color_mode",
  .literal "\n- Aspect ratio: ", .placeholder "aspect_ratio",
  .literal "\n- Writing mode: ", .placeholder "writing_mode",
  .literal "\n\n=== INSTRUCTIONS ===",
  .literal "\n", .placeholder "instructions",
  .literal "\n\n=== CHARACTER DESIGNS ===",
  .literal "\n", .placeholder "character_designs",
  .literal "\n\n=== PANEL DETAILS ===",
  .literal "\n", .placeholder "panel_details",
  .literal "\n\n", .placeholder "generation_directives"]

theorem Appearance.template_eq_segments : template = segments.flatMap Segment.written := by
  simp [template, segments, Segment.written, Text.joinWith]

theorem CharacterDesign.template_eq_segments : template = segments.flatMap Segment.written := by
  simp [template, segments, Segment.written, Text.joinWith]

theorem Panel.template_eq_segments : template = segments.flatMap Segment.written := by
  simp [template, segments, Segment.written, Text.joinWith]

theorem Page.template_eq_segments : template = segments.flatMap Segment.written := by
  simp [template, segments, Segment.written, Text.joinWith]

theorem Appearance.segments_fit : ∀ s ∈ segments, s.Fits
    ["name", "panel_position", "emotion", "facing", "shot", "pose", "dialogue"] := by
  simp [segments, Segment.Fits]

theorem CharacterDesign.segments_fit : ∀ s ∈ segments, s.Fits ["name", "base_prompt"] := by
  simp [segments, Segment.Fits]

theorem Panel.segments_fit : ∀ s ∈ segments, s.Fits
    ["number", "page_position", "background", "description", "characters", "camera_angle"] := by
  simp [segments, Segment.Fits]

theorem Page.segments_fit : ∀ s ∈ segments, s.Fits
    ["layout_constraints", "language", "style", "color_mode", "aspect_ratio", "writing_mode",
      "instructions", "character_designs", "panel_details", "generation_directives"] := by
  simp [segments, Segment.Fits]

/-! ### The three levels -/

/-- The values that the template of an appearance is filled with. -/
def Appearance.View.values (a : Appearance.View) : List (Text × Text) :=
  [("name", a.name), ("panel_position", a.position), ("emotion", a.emotion), ("facing", a.facing),
    ("shot", a.shot), ("pose", a.pose), ("dialogue", a.firstLine)]

def CharacterDesign.View.values (c : CharacterDesign.View) : List (Text × Text) :=
  [("name", c.name), ("base_prompt", c.basePrompt)]

def Panel.View.values (p : Panel.View) : List (Text × Text) :=
  [("number", Text.ofInt p.number), ("page_position", p.pagePosition),
    ("background", p.background), ("description", p.description),
    ("characters", List.intercalate "\n" (p.characters.map Appearance.View.document)),
    ("camera_angle", p.cameraAngle)]

def Page.View.valuesWith (closing : Text) (v : Page.View) : List (Text × Text) :=
  [("layout_constraints", v.layoutConstraints), ("language", v.language), ("style", v.style),
    ("color_mode", v.colorMode), ("aspect_ratio", v.aspectRatio), ("writing_mode", v.writingMode),
    ("instructions", v.instructions),
    ("character_designs", List.intercalate "\n\n" (v.characters.map CharacterDesign.View.document)),
    ("panel_details", List.intercalate "\n\n" (v.panels.map Panel.View.document)),
    ("generation_directives", closing)]

theorem Appearance.View.fill_values (a : Appearance.View) :
    fill a.values Appearance.template = a.document := by
  rw [template_eq_segments, fill_written segments_fit]
  rfl

theorem CharacterDesign.View.fill_values (c : CharacterDesign.View) :
    fill c.values CharacterDesign.template = c.document := by
  rw [template_eq_segments, fill_written segments_fit]
  rfl

theorem Panel.View.fill_values (p : Panel.View) : fill p.values Panel.template = p.document := by
  rw [template_eq_segments, fill_written segments_fit]
  rfl

/-- Only the place of the closing paragraph matters here, not what it says. -/
theorem Page.View.fill_valuesWith (closing : Text) (v : Page.View) :
    fill (v.valuesWith closing) Page.template = v.documentWith closing := by
  rw [template_eq_segments, fill_written segments_fit]
  rfl

theorem Appearance.block_eq_document (a : Appearance) : a.block = a.view.document :=
  a.view.fill_values

theorem CharacterDesign.block_eq_document (c : CharacterDesign) : c.block = c.view.document :=
  c.view.fill_values

/-- The block of a panel holds its texts and the blocks of its appearances as they are. -/
theorem Panel.block_eq_document (p : Panel) : p.block = p.view.document := by
  have hc : Text.joinWith "\n" (p.characters.map Appearance.block) =
      List.intercalate "\n" (p.view.characters.map Appearance.View.document) := by
    rw [Text.joinWith_eq_intercalate, view, List.map_map]
    exact congrArg _ (List.map_congr_left fun a _ => a.block_eq_document)
  rw [block, hc]
  exact p.view.fill_values

theorem Page.prompt_eq_document (p : Page) : p.prompt = p.view.document := by
  have hc : Text.joinWith "\n\n" (p.characters.map CharacterDesign.block) =
      List.intercalate "\n\n" (p.view.characters.map CharacterDesign.View.document) := by
    rw [Text.joinWith_eq_intercalate, view, List.map_map]
    exact congrArg _ (List.map_congr_left fun c _ => c.block_eq_document)
  have hp : Text.joinWith "\n\n" (p.panels.map Panel.block) =
      List.intercalate "\n\n" (p.view.panels.map Panel.View.document) := by
    rw [Text.joinWith_eq_intercalate, view, List.map_map]
    exact congrArg _ (List.map_congr_left fun q _ => q.block_eq_document)
  rw [prompt, hc, hp]
  exact p.view.fill_valuesWith directives

/-- **A prompt is plain concatenation on all three levels.** The texts of a page, of its characters
and of its panels stand in the prompt as they are, each at its label and once, in the order of the
page; whatever braces they hold, no template is filled with them. -/
theorem Page.prompt_verbatim (p : Page) :
    p.prompt = p.view.document ∧
    (∀ c ∈ p.characters, c.block = c.view.document) ∧
    ∀ panel ∈ p.panels, panel.block = panel.view.document ∧
      ∀ a ∈ panel.characters, a.block = a.view.document :=
  ⟨p.prompt_eq_document, fun c _ => c.block_eq_document,
    fun panel _ => ⟨panel.block_eq_document, fun a _ => a.block_eq_document⟩⟩

end MangaPress
