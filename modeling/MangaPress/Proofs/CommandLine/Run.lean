/-
# What the command does with a document

Once the arguments are understood, the settings are made and the document is read, the command
prints the prompt of the page, or runs a request for the page. Where the document is none of a page
it fails, with the files as they were and without having asked anything of anyone.

Key definitions: `Command.Prepared`, `Command.Prints`, `Command.Generates`.
Key theorems: `Command.run_of_prints`, `Command.run_of_generates`.
-/
import MangaPress.CommandLine.Command
import MangaPress.Proofs.Generation.RequestBody

namespace MangaPress

namespace Generation

/-- A call that ends with the text: it is the last part of what its body says. -/
def Call.EndsWith (call : Call) (t : Text) : Prop :=
  ∃ images : List Image,
    (Json.Document.ofSource (Json.Source.ofBytes (Text.encode call.body))).decode
        Turn.contentsDecoder = .ok [{ role := "user", parts := images.map .image ++ [.text t] }]

/-- The call for a page ends with its prompt. -/
theorem callFor_endsWith (store : Reference.Store) (url : Web.Url) (key : Text) (page : Page) :
    (callFor store url key page).EndsWith page.prompt :=
  ⟨foundImages store page, decode_requestBody _ _⟩

end Generation

namespace Command

/-- The arguments are understood, there are settings, and the document is this text. -/
structure Prepared (i : Input) (a : Arguments) (settings : Settings) (yaml : Text) : Prop where
  understood : Arguments.parse (fullEnvironment i) i.arguments = .ok a
  configured : Settings.ofEnvironment (fullEnvironment i) = .ok settings
  readable : i.files.textAt a.yamlPath = .ok yaml

/-- The command is to print the prompt of the document. -/
def Prints (i : Input) (yaml : Text) : Prop :=
  ∃ a settings, Prepared i a settings yaml ∧ a.printPrompt = true

/-- The command is to generate the page of the document; it has a key, and the address of the
endpoint is one. -/
def Generates (i : Input) (yaml : Text) : Prop :=
  ∃ a settings url key, Prepared i a settings yaml ∧ a.printPrompt = false ∧
    Web.Url.parse? (Generation.Endpoint.of settings.apiBase settings.model).address = some url ∧
    Generation.IsKey i.files settings.credentialPath a.apiKey key

variable {i : Input} {a : Arguments} {settings : Settings} {yaml : Text}

theorem Prepared.run_eq (h : Prepared i a settings yaml) :
    run i =
      if a.printPrompt then
        match Page.parse yaml with
        | .error e => fail i.files (.markup e)
        | .ok page => { exit := 0, printed := page.prompt ++ ['\n'], files := i.files }
      else generate i (fullEnvironment i) settings a yaml := by
  unfold run
  cases hparse : Page.parse yaml <;>
    simp only [h.understood, h.configured, h.readable, hparse]

theorem run_of_prints (h : Prints i yaml) :
    run i =
      match Page.parse yaml with
      | .error e => fail i.files (.markup e)
      | .ok page => { exit := 0, printed := page.prompt ++ ['\n'], files := i.files } := by
  obtain ⟨a, settings, hprepared, hprint⟩ := h
  rw [hprepared.run_eq, if_pos hprint]

/-- To generate a page is to make one call, which ends with the prompt; without a page there is
none. -/
theorem run_of_generates (h : Generates i yaml) :
    (∀ e, Page.parse yaml = .error e → run i = fail i.files (.generation (.ofMarkup e))) ∧
    ∀ page, Page.parse yaml = .ok page →
      ∃ call, (run i).calls = [call] ∧ call.EndsWith page.prompt := by
  obtain ⟨a, settings, url, key, hprepared, hprint, hurl, hkey⟩ := h
  have hresolve := Generation.resolveCredential_eq_ok_iff.mpr hkey
  rw [hprepared.run_eq, if_neg (by rw [hprint]; exact Bool.false_ne_true)]
  unfold generate
  dsimp only
  refine ⟨fun e hpage => ?_, fun page hpage => ?_⟩
  · rw [Generation.run_of_markup_error _ _ _ _ _ _ hresolve hpage]
    rfl
  · rw [Generation.run_of_page _ _ _ _ _ _ hurl hresolve hpage]
    exact ⟨_, congrArg List.reverse (Generation.Exchange.calls_post _ _),
      Generation.callFor_endsWith _ _ _ _⟩

end Command

end MangaPress
