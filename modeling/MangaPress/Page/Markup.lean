/-
# Page documents

A page is written as a YAML document whose key `comic_page` holds it. `Page.parse` first looks for
`comic_page` and for panels in it, so that their absence is told apart from a page of the wrong
shape, and only then reads the page.

Key definitions: `MarkupError`, `MarkupError.message`, `Page.parse`.
-/
import MangaPress.Page.Shape
import MangaPress.Yaml.Document

namespace MangaPress

/-- Why a text is not a page document. -/
inductive MarkupError where
  | empty
  | syntaxError
  | missingComicPage
  | missingPanels
  | shape (e : ShapeError)
deriving Repr

/-- The wording of the error. -/
def MarkupError.message : MarkupError → Text
  | empty => "page markup is empty"
  | syntaxError => "invalid YAML"
  | missingComicPage => "comic_page key not found"
  | missingPanels => "panels are not defined"
  | shape e => "comic_page has an unexpected shape: " ++ e.message

/-- The page that a document describes. -/
def Page.ofDocument (document : Yaml.Value) : Except MarkupError Page :=
  match (document.get? "comic_page").filter fun v => !v.isNull with
  | none => .error .missingComicPage
  | some content =>
    match (content.get? "panels").bind Yaml.Value.items? with
    | none | some [] => .error .missingPanels
    | some (_ :: _) =>
      match Page.ofValue .yaml content with
      | .error e => .error (.shape e)
      | .ok page => .ok page

/-- The page that a text describes. -/
def Page.parse (t : Text) : Except MarkupError Page :=
  if Text.allBlank t then .error .empty
  else
    match Yaml.Value.parse? t with
    | none => .error .syntaxError
    | some document => Page.ofDocument document

end MangaPress
