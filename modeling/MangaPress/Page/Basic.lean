/-
# Comic pages

A `Page` describes one full comic page: its style settings, the recurring characters with their
fixed look, and the panels in reading order. Almost every text is optional; where a text is absent
or empty, the functions of the same record give its default (`Page.languageText` and so on). These
defaulted texts are all that a prompt shows.

Key definitions: `Page`, `Panel`, `CharacterDesign`, `Appearance`, `DialogueLine`,
`Page.unmatchedNames`.
-/
import MangaPress.Yaml.Value

namespace MangaPress

/-- One line of speech. -/
structure DialogueLine where
  text : Text := []
  textPosition : Option Text := none
  kind : Option Text := none
deriving Repr, DecidableEq, Inhabited

/-- A character as it appears in one panel. -/
structure Appearance where
  name : Text := []
  position : Option Text := none
  emotion : Option Text := none
  facing : Option Text := none
  shot : Option Text := none
  pose : Option Text := none
  description : Option Text := none
  lines : List DialogueLine := []
deriving Repr, DecidableEq, Inhabited

/-- The fixed look of a recurring character. -/
structure CharacterDesign where
  name : Text := []
  basePrompt : Option Text := none
deriving Repr, DecidableEq, Inhabited

/-- One frame of a page. The reading order is the order of the panels, not of their numbers. The
effects and monologues are kept as they were written; no prompt shows them. -/
structure Panel where
  number : Int := 0
  pagePosition : Option Text := none
  background : Option Text := none
  description : Option Text := none
  cameraAngle : Option Text := none
  effects : List Yaml.Value := []
  monologues : List Yaml.Value := []
  characters : List Appearance := []
deriving Repr, Inhabited

/-- One full comic page. -/
structure Page where
  language : Option Text := none
  style : Option Text := none
  colorMode : Option Text := none
  aspectRatio : Option Text := none
  writingMode : Option Text := none
  instructions : Option Text := none
  layoutConstraints : Option Text := none
  characters : List CharacterDesign := []
  panels : List Panel := []
deriving Repr, Inhabited

namespace Page

/-- The language of the speech bubbles. -/
def languageText (p : Page) : Text := Text.orElse p.language "Japanese"

/-- The art style. -/
def styleText (p : Page) : Text := Text.orElse p.style "japanese manga"

/-- The colour mode. -/
def colorModeText (p : Page) : Text := Text.orElse p.colorMode "カラー"

/-- Width to height. -/
def aspectRatioText (p : Page) : Text := Text.orElse p.aspectRatio "1:1.4"

/-- The direction of writing. -/
def writingModeText (p : Page) : Text := Text.orElse p.writingMode "vertical-rl"

/-- Instructions for the whole page. -/
def instructionsText (p : Page) : Text := Text.orElse p.instructions []

/-- Constraints on the layout. -/
def layoutConstraintsText (p : Page) : Text := Text.orElse p.layoutConstraints []

end Page

namespace CharacterDesign

/-- The description of the character's look. -/
def basePromptText (c : CharacterDesign) : Text := Text.orElse c.basePrompt []

end CharacterDesign

namespace Panel

/-- Where on the page the panel stands. -/
def pagePositionText (p : Panel) : Text := Text.orElse p.pagePosition "middle"

/-- The background of the scene. -/
def backgroundText (p : Panel) : Text := Text.orElse p.background []

/-- What happens in the panel. -/
def descriptionText (p : Panel) : Text := Text.orElse p.description []

/-- The camera angle. -/
def cameraAngleText (p : Panel) : Text := Text.orElse p.cameraAngle "medium shot"

end Panel

namespace Appearance

/-- Where in the panel the character stands. -/
def positionText (a : Appearance) : Text := Text.orElse a.position "center"

/-- The emotion shown. -/
def emotionText (a : Appearance) : Text := Text.orElse a.emotion []

/-- The direction the character faces. -/
def facingText (a : Appearance) : Text := Text.orElse a.facing []

/-- The type of shot. -/
def shotText (a : Appearance) : Text := Text.orElse a.shot []

/-- The pose. -/
def poseText (a : Appearance) : Text := Text.orElse a.pose []

/-- The text of the first line of speech; later lines are never shown. -/
def firstLine (a : Appearance) : Text :=
  match a.lines with
  | [] => []
  | line :: _ => line.text

end Appearance

namespace Page

/-- The names of all appearances, over the panels in order. -/
def appearanceNames (p : Page) : List Text :=
  p.panels.flatMap fun panel => panel.characters.map (·.name)

/-- The names of the recurring characters, in order. -/
def characterNames (p : Page) : List Text :=
  p.characters.map (·.name)

/-- The names that appear in a panel but belong to no recurring character, each one once, in the
order of their first appearance. -/
def unmatchedNames (p : Page) : List Text :=
  p.appearanceNames.foldl (fun found name =>
    if p.characterNames.contains name || found.contains name then found else found ++ [name]) []

end Page

end MangaPress
