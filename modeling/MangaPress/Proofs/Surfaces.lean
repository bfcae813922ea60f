/-
# One document, handed in anywhere

A page document can be handed in to be validated, to have its prompt given or printed, and to have
its page generated, by the service or by the command. All of them read it in the same way, so they
agree on whether it is a page document, on the prompt, which is also the last thing that the
endpoint is sent, and on what is wrong with it otherwise. Only then does generating a page go on to
ask anything of anyone.

Key definitions: `Service.Validates`, `Service.AsksPrompt`, `Service.AsksPage`.
Key theorem: `surfaces_agree`.
-/
import MangaPress.Proofs.CommandLine.Run
import MangaPress.Proofs.Page.Grammar
import MangaPress.Proofs.Service.Handling
import MangaPress.Proofs.Service.Secrecy

namespace MangaPress

namespace Service

open Credential (Filled)
open Generation (GenerateRequest)

/-! ### The requests -/

/-- The request is to validate the document. -/
structure Validates (r : Request) (yaml : Text) : Prop where
  route : r.route? = some .validatePage
  body : r.decode PageRequest.decoder = .ok { yaml }

/-- The request is for the prompt of the document. -/
structure AsksPrompt (r : Request) (yaml : Text) : Prop where
  route : r.route? = some .promptOfPage
  body : r.decode PageRequest.decoder = .ok { yaml }

/-- The request is for the page of the document, and has a key that is not blank. -/
structure AsksPage (r : Request) (yaml : Text) : Prop where
  route : r.route? = some .generatePage
  body : ∃ key save, r.decode GenerateRequest.decoder = .ok { yaml, apiKey := some key, save } ∧
    Filled key

variable {s : Service} {r : Request} {yaml : Text} (occasion : Occasion) (state : State)

theorem handle_of_validates (h : Validates r yaml) :
    s.handle occasion state r = (validatePage { yaml }, state) := by
  rw [handle_validatePage s occasion state h.route h.body]

theorem handle_of_asksPrompt (h : AsksPrompt r yaml) :
    s.handle occasion state r = (promptOfPage { yaml }, state) := by
  rw [handle_promptOfPage s occasion state h.route h.body]

/-- To ask for a page is to make one call, which ends with the prompt; without a page there is none.
-/
theorem handle_of_asksPage {url : Web.Url} (hurl : Web.Url.parse? s.endpoint.address = some url)
    (h : AsksPage r yaml) :
    (∀ e, Page.parse yaml = .error e →
      s.handle occasion state r = (failed (.ofMarkup e), state)) ∧
    ∀ page, Page.parse yaml = .ok page → ∃ call,
      (s.handle occasion state r).2.calls = call :: state.calls ∧ call.EndsWith page.prompt := by
  obtain ⟨key, save, hread, hfilled⟩ := h.body
  have hkey : Generation.resolveCredential state.files s.credentialPath (some key) =
      .ok (Text.trim key) :=
    Generation.resolveCredential_eq_ok_iff.mpr (.own rfl hfilled)
  refine ⟨fun e hpage => ?_, fun page hpage => ?_⟩
  · rw [handle_generatePage s occasion state h.route hread]
    exact generatePage_of_error s occasion state _
      (Generation.run_of_markup_error _ _ _ _ _ _ hkey hpage)
  · exact ⟨_, calls_of_key s occasion state h.route hread hurl hpage hkey,
      Generation.callFor_endsWith _ _ _ _⟩

/-! ### Documents of every kind can be asked about -/

/-- A request whose body is an object with the document. -/
def Request.ofDocument (target yaml : Text) : Request where
  method := "POST"
  target := target
  contentType := some (Text.encode "application/json")
  body := Text.encode (Json.Value.object [("yaml", .string yaml)]).compact

theorem Request.decode_of_value {α : Type} {decoder : Json.Decoder α} {a : α}
    (hjson : r.isJson = true) (hlength : r.body.length ≤ maxBodyLength)
    (h : decoder r.value = .ok a) : r.decode decoder = .ok a := by
  unfold value at h
  unfold decode Json.Document.decodeFirst
  rw [hjson, if_neg (by decide), if_neg (Nat.not_lt.mpr hlength), h]

theorem Request.value_ofDocument (target yaml : Text) :
    (ofDocument target yaml).value = .object [(some "yaml".toList, .string (some yaml))] true := by
  unfold value ofDocument
  rw [Json.Source.ofBytes_encode, Json.Document.ofSource_compact]
  rfl

/-- A document that is not too long can be validated. -/
theorem validates_ofDocument
    (h : (Request.ofDocument "/api/v1/pages/validate" yaml).body.length ≤ maxBodyLength) :
    Validates (.ofDocument "/api/v1/pages/validate" yaml) yaml := by
  refine ⟨rfl, Request.decode_of_value rfl h ?_⟩
  rw [Request.value_ofDocument]
  rfl

theorem asksPrompt_ofDocument
    (h : (Request.ofDocument "/api/v1/pages/prompt" yaml).body.length ≤ maxBodyLength) :
    AsksPrompt (.ofDocument "/api/v1/pages/prompt" yaml) yaml := by
  refine ⟨rfl, Request.decode_of_value rfl h ?_⟩
  rw [Request.value_ofDocument]
  rfl

theorem asksPage_withKey {key : Text} (hkey : Filled key)
    (h : (Request.withKey "POST" "/api/v1/pages/generate" [("yaml", .string yaml)] [] key).body.length ≤
      maxBodyLength) :
    AsksPage (.withKey "POST" "/api/v1/pages/generate" [("yaml", .string yaml)] [] key) yaml := by
  refine ⟨rfl, key, false, Request.decode_of_value rfl h ?_, hkey⟩
  rw [Request.value_withKey]
  rfl

end Service

open Service in
/-- **All surfaces agree on every document.** Validating it succeeds iff giving its prompt does, iff
printing its prompt does, iff generating its page calls the endpoint. If so, the same number of
panels is told, at least one, and the prompt that is given is the one that is printed and the last
part of what the endpoint is sent, by the service and by the command. If not, the service gives the
same answer to all requests, with status 400, and stays as it is; the command fails as well, and
neither asks anything of anyone nor changes a file. -/
theorem surfaces_agree {yaml : Text} {s : Service} {url : Web.Url} {v p g : Request}
    {i j : Command.Input} (hurl : Web.Url.parse? s.endpoint.address = some url)
    (hv : Validates v yaml) (hp : AsksPrompt p yaml) (hg : AsksPage g yaml)
    (hi : Command.Prints i yaml) (hj : Command.Generates j yaml) (occasion : Occasion)
    (state : State) :
    (((s.handle occasion state v).1.status = 200 ↔ (s.handle occasion state p).1.status = 200) ∧
      ((s.handle occasion state p).1.status = 200 ↔ (Command.run i).exit = 0) ∧
      ((Command.run i).exit = 0 ↔
        ∃ call, (s.handle occasion state g).2.calls = call :: state.calls)) ∧
    ((s.handle occasion state v).1.status = 200 → ∃ (prompt : Text) (panels : Nat), 1 ≤ panels ∧
      s.handle occasion state v =
        (ok [("valid", some (.bool true)), ("panel_count", some (.int panels))], state) ∧
      s.handle occasion state p =
        (ok [("prompt", some (.string prompt)), ("panel_count", some (.int panels))], state) ∧
      (Command.run i).printed = prompt ++ ['\n'] ∧
      (∃ call, (s.handle occasion state g).2.calls = call :: state.calls ∧ call.EndsWith prompt) ∧
      ∃ call, (Command.run j).calls = [call] ∧ call.EndsWith prompt) ∧
    ((s.handle occasion state v).1.status ≠ 200 → ∃ answer : Response, answer.status = 400 ∧
      s.handle occasion state v = (answer, state) ∧ s.handle occasion state p = (answer, state) ∧
      s.handle occasion state g = (answer, state) ∧
      ∀ k, k = i ∨ k = j → (Command.run k).exit = 1 ∧ (Command.run k).printed = [] ∧
        (Command.run k).files = k.files ∧ (Command.run k).lookups = [] ∧
        (Command.run k).calls = []) := by
  rw [handle_of_validates occasion state hv, handle_of_asksPrompt occasion state hp, validatePage,
    promptOfPage, Command.run_of_prints hi]
  obtain ⟨hgerror, hgpage⟩ := handle_of_asksPage occasion state hurl hg
  obtain ⟨hjerror, hjpage⟩ := Command.run_of_generates hj
  cases hparse : Page.parse yaml with
  | error e =>
    have hstatus : (failed (.ofMarkup e)).status ≠ 200 := nofun
    rw [hgerror e hparse]
    refine ⟨⟨Iff.rfl, iff_of_false hstatus nofun, iff_of_false nofun ?_⟩,
      fun h => absurd h hstatus, fun _ => ⟨_, rfl, rfl, rfl, rfl, ?_⟩⟩
    · rintro ⟨call, hcall⟩
      exact List.cons_ne_self _ _ hcall.symm
    · have hierror := Command.run_of_prints hi
      rw [hparse] at hierror
      rintro k (rfl | rfl)
      · rw [hierror]
        exact ⟨rfl, rfl, rfl, rfl, rfl⟩
      · rw [hjerror e hparse]
        exact ⟨rfl, rfl, rfl, rfl, rfl⟩
  | ok page =>
    obtain ⟨call, hcall, hends⟩ := hgpage page hparse
    obtain ⟨call', hcall', hends'⟩ := hjpage page hparse
    have hpanels : 1 ≤ page.panels.length :=
      List.length_pos_iff.mpr (Page.panels_ne_nil_of_parse hparse)
    refine ⟨⟨Iff.rfl, iff_of_true rfl rfl, iff_of_true rfl ⟨call, hcall⟩⟩,
      fun _ => ⟨page.prompt, page.panels.length, hpanels, rfl, rfl, rfl, ⟨call, hcall, hends⟩,
        call', hcall', hends'⟩, fun h => absurd rfl h⟩

/-- The settings of an empty environment. -/
def standardSettings : Settings where
  port := 8080
  logFilter := "info"
  apiBase := Generation.defaultBase
  model := Generation.defaultModel
  timeoutSeconds := 180
  referenceBase := "public/characters"
  credentialPath := ".manga/credentials.json"
  outputRoot := "output"

/-- The command beside a document of one panel. -/
def besideOnePanel (arguments : List Text) : Command.Input where
  arguments
  environment := []
  files := { entries := [(["page.yaml"], .file (Text.encode Service.onePanel))] }
  date := default
  answers := [.lost]
  served := fun _ => .lost

/-- The prompt that is printed is the one that the endpoint is sent. -/
theorem printed_of_onePanel :
    ∃ (prompt : Text) (call : Generation.Call),
      (Command.run (besideOnePanel ["page.yaml", "--print-prompt"])).printed = prompt ++ ['\n'] ∧
      (Command.run (besideOnePanel ["page.yaml", "--api-key", "key"])).calls = [call] ∧
      call.EndsWith prompt := by
  have hconfigured : Settings.ofEnvironment [] = .ok standardSettings :=
    eq_ok_of_toOption (by decide +kernel)
  have hreadable : (besideOnePanel []).files.textAt "page.yaml" = .ok Service.onePanel :=
    eq_ok_of_toOption (by decide +kernel)
  have hprepared : ∀ (arguments : List Text) (a : Arguments),
      (Arguments.parse [] arguments).toOption = some a → a.yamlPath = "page.yaml" →
      Command.Prepared (besideOnePanel arguments) a standardSettings Service.onePanel := by
    intro arguments a ha hpath
    refine ⟨eq_ok_of_toOption ha, hconfigured, ?_⟩
    rw [hpath]
    exact hreadable
  have hprints : Command.Prints (besideOnePanel ["page.yaml", "--print-prompt"]) Service.onePanel :=
    ⟨{ yamlPath := "page.yaml", sessionFolder := none, outputRoot := none, referenceBase := none,
       apiKey := none, printPrompt := true }, standardSettings,
      hprepared _ _ (by decide +kernel) rfl, rfl⟩
  have hgenerates : Command.Generates (besideOnePanel ["page.yaml", "--api-key", "key"])
      Service.onePanel :=
    ⟨{ yamlPath := "page.yaml", sessionFolder := none, outputRoot := none, referenceBase := none,
       apiKey := some "key", printPrompt := false }, standardSettings, Generation.standardUrl, _,
      hprepared _ _ (by decide +kernel) rfl, rfl, Generation.parse?_standardUrl,
      .own rfl (by decide +kernel)⟩
  have hfilled : Credential.Filled "key" := by decide +kernel
  have hurl : Web.Url.parse? Service.standard.endpoint.address = some Generation.standardUrl :=
    Generation.parse?_standardUrl
  obtain ⟨-, hsuccess, -⟩ := surfaces_agree hurl
    (Service.validates_ofDocument (by decide +kernel))
    (Service.asksPrompt_ofDocument (by decide +kernel))
    (Service.asksPage_withKey hfilled (by decide +kernel))
    hprints hgenerates default Service.secluded
  obtain ⟨prompt, panels, -, -, -, hprinted, -, call, hcalls, hends⟩ := hsuccess (by decide +kernel)
  exact ⟨prompt, call, hprinted, hcalls, hends⟩

end MangaPress
