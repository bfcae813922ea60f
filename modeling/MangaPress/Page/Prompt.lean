/-
# The prompt of a page

`Page.prompt` flattens a page into the one text that is sent beside the reference images. It is
made by filling templates on three levels: a block for each appearance, a block for each panel, and
the page itself. Panels and appearances keep their order; the number of a panel is printed and
nothing else. Of each appearance only the first line of speech is shown.

Key definitions: `Page.prompt`, `Panel.block`, `Appearance.block`, `CharacterDesign.block`.
-/
import MangaPress.Page.Basic
import MangaPress.Page.Template
import MangaPress.Text.Numeral

namespace MangaPress

/-- The block of an appearance in its panel. -/
def Appearance.template : Text :=
  Text.joinWith "\n" [
    "  - Character: {name}",
    "    Position: {panel_position}",
    "    Emotion: {emotion}",
    "    Facing: {facing}",
    "    Shot type: {shot}",
    "    Pose: {pose}",
    "    Dialogue: \"{dialogue}\""]

/-- The block of a panel. -/
def Panel.template : Text :=
  Text.joinWith "\n" [
    "Panel {number} (位置: {page_position}):",
    "  Background: {background}",
    "  Scene description: {description}",
    "  Characters:",
    "{characters}",
    "  Camera angle: {camera_angle}"]

/-- The block of a recurring character. -/
def CharacterDesign.template : Text :=
  Text.joinWith "\n" [
    "Character: {name}",
    "{base_prompt}"]

namespace Page

/-- The whole page. -/
def template : Text :=
  Text.joinWith "\n" [
    "Generate a complete manga page following these specifications:",
    "",
    "=== LAYOUT CONSTRAINTS ===",
    "{layout_constraints}",
    "",
    "=== STYLE SPECIFICATIONS ===",
    "- Language: {language}",
    "- Art style: {style}",
    "- Color mode: {color_mode}",
    "- Aspect ratio: {aspect_ratio}",
    "- Writing mode: {writing_mode}",
    "",
    "=== INSTRUCTIONS ===",
    "{instructions}",
    "",
    "=== CHARACTER DESIGNS ===",
    "{character_designs}",
    "",
    "=== PANEL DETAILS ===",
    "{panel_details}",
    "",
    "{generation_directives}"]

/-- The closing directives. They are the same for every page: the language and the aspect ratio
named here do not follow the page's own settings. -/
def directives : Text :=
  "IMPORTANT:
- Use the attached character reference images to maintain consistent character designs
- Follow the layout constraints strictly
- Include speech bubbles with the specified dialogue in Japanese
- Maintain the aspect ratio of 1:1.4 (width:height)
- Generate the complete page as a single image with all panels"

end Page

/-- What the prompt says of an appearance. -/
def Appearance.block (a : Appearance) : Text :=
  Template.fill
    [("name", a.name), ("panel_position", a.positionText), ("emotion", a.emotionText),
      ("facing", a.facingText), ("shot", a.shotText), ("pose", a.poseText),
      ("dialogue", a.firstLine)]
    Appearance.template

/-- What the prompt says of a panel. -/
def Panel.block (p : Panel) : Text :=
  Template.fill
    [("number", Text.ofInt p.number), ("page_position", p.pagePositionText),
      ("background", p.backgroundText), ("description", p.descriptionText),
      ("characters", Text.joinWith "\n" (p.characters.map Appearance.block)),
      ("camera_angle", p.cameraAngleText)]
    Panel.template

/-- What the prompt says of a recurring character. -/
def CharacterDesign.block (c : CharacterDesign) : Text :=
  Template.fill [("name", c.name), ("base_prompt", c.basePromptText)] CharacterDesign.template

/-- The prompt of a page. -/
def Page.prompt (p : Page) : Text :=
  Template.fill
    [("layout_constraints", p.layoutConstraintsText), ("language", p.languageText),
      ("style", p.styleText), ("color_mode", p.colorModeText),
      ("aspect_ratio", p.aspectRatioText), ("writing_mode", p.writingModeText),
      ("instructions", p.instructionsText),
      ("character_designs", Text.joinWith "\n\n" (p.characters.map CharacterDesign.block)),
      ("panel_details", Text.joinWith "\n\n" (p.panels.map Panel.block)),
      ("generation_directives", Page.directives)]
    Page.template

end MangaPress
