/-
# What the command falls back on

A command line that names only a document leaves the base of the reference images and the root of
the saved pages to the environment. The settings take their default where a variable is missing or
blank. The arguments take the variable as it is, and the command prefers them to the settings: so it
goes by the settings as long as neither variable is blank. A blank one stands for itself, where the
settings have their default, and an empty root is no path at all.

Key definitions: `Environment.IsBlank`, `Arguments.NamesDocument`, `Service.ofSettings`.
Key theorems: `Settings.getD_valueOr_eq_iff`, `Arguments.parse_document`,
`Command.run_of_document`.
-/
import MangaPress.Proofs.Agree
import MangaPress.Proofs.CommandLine.Run
import MangaPress.Proofs.Lookup
import MangaPress.Service.Router

namespace MangaPress

/-- The variable is set, but to white space or to nothing. -/
def Environment.IsBlank (env : Environment) (name : Text) : Prop :=
  ∃ value, env.get? name = some value ∧ Text.allBlank value = true

/-! ### Settings -/

theorem Settings.valueOr_of_not_isBlank {env : Environment} {name : Text} (fallback : Text)
    (h : ¬ env.IsBlank name) : valueOr env name fallback = (env.get? name).getD fallback := by
  unfold valueOr
  cases hget : env.get? name with
  | none => rfl
  | some value =>
    have hvalue : Text.allBlank value = false :=
      Bool.eq_false_iff.mpr fun hblank => h ⟨value, hget, hblank⟩
    rw [Option.filter_some_pos (by rw [hvalue]; rfl)]

theorem Settings.valueOr_of_isBlank {env : Environment} {name : Text} (fallback : Text)
    (h : env.IsBlank name) : valueOr env name fallback = fallback := by
  obtain ⟨value, hget, hblank⟩ := h
  rw [valueOr, hget, Option.filter_some_neg (by rw [hblank]; rfl), Option.getD_none]

/-- A variable that is preferred to a setting is that setting, unless the variable is blank. -/
theorem Settings.getD_valueOr_eq_iff (env : Environment) (name fallback : Text)
    (hfallback : Text.allBlank fallback = false) :
    (env.get? name).getD (valueOr env name fallback) = valueOr env name fallback ↔
      ¬ env.IsBlank name := by
  constructor
  · rintro heq ⟨value, hget, hblank⟩
    rw [valueOr_of_isBlank fallback ⟨value, hget, hblank⟩, hget, Option.getD_some] at heq
    rw [← heq, hblank] at hfallback
    cases hfallback
  · intro h
    rw [valueOr_of_not_isBlank fallback h]
    cases env.get? name <;> rfl

/-- The base and the root among the settings are values of variables. -/
theorem Settings.places_of_ofEnvironment {env : Environment} {settings : Settings}
    (h : ofEnvironment env = .ok settings) :
    settings.referenceBase = valueOr env "ASSETS_BASE" "public/characters" ∧
      settings.outputRoot = valueOr env "OUTPUT_DIR" "output" := by
  unfold ofEnvironment at h
  cases htimeout : Numeral.parse maxTimeout (valueOr env "GEMINI_TIMEOUT_SECS" "180") with
  | error e =>
    rw [htimeout] at h
    cases h
  | ok timeout =>
    rw [htimeout] at h
    cases hport : Numeral.parse maxPort (valueOr env "PORT" "8080") with
    | error e =>
      rw [hport] at h
      cases h
    | ok port =>
      rw [hport] at h
      cases h
      exact ⟨rfl, rfl⟩

/-- The service with the settings of its environment. -/
def Service.ofSettings (env : Environment) (settings : Settings) : Service where
  endpoint := Generation.Endpoint.of settings.apiBase settings.model
  references := Reference.Place.ofBase settings.referenceBase
  credentialPath := settings.credentialPath
  outputRoot := settings.outputRoot
  session := env.get? "MANGA_SESSION_ID"

/-! ### Arguments -/

namespace Arguments

/-- The argument is the path of a document: it is not empty, and does not begin with a hyphen unless
it is one. -/
structure NamesDocument (argument : Text) : Prop where
  ne_nil : argument ≠ []
  noOption : argument.head? = some '-' → argument = ['-']

theorem step_document {path : Text} (h : NamesDocument path) :
    Progress.step {} path = .ok { pending := .path path, pathSeen := true } := by
  obtain ⟨hne, hoption⟩ := h
  cases path with
  | nil => exact absurd rfl hne
  | cons c rest =>
    by_cases hc : c = '-'
    · subst hc
      rw [hoption rfl]
      rfl
    · unfold Progress.step
      split
      · rename_i hpaths
        cases hpaths
      · split
        · rename_i heq
          exact absurd (List.cons.inj heq).1 hc
        · rename_i heq
          exact absurd (List.cons.inj heq).1 hc
        · rename_i heq
          exact absurd (List.cons.inj heq).1 hc
        · rfl

/-- An option that was not given takes the value of its variable, which must not be empty if it is a
path; nothing else changes. -/
theorem Progress.fallBack_eq_ok (env : Environment) {p : Progress} (o : ValueOption)
    {value : Option Text} (hgiven : p.value? o = none)
    (hvalue : o.environmentName?.bind env.get? = value)
    (hpath : o.isPath = true → value ≠ some []) :
    ∃ p', fallBack env p o = .ok p' ∧ p'.yamlPath = p.yamlPath ∧ p'.printPrompt = p.printPrompt ∧
      p'.value? o = value ∧ ∀ other, other ≠ o → p'.value? other = p.value? other := by
  unfold fallBack
  rw [hgiven, hvalue]
  cases value with
  | none => exact ⟨p, rfl, rfl, rfl, hgiven, fun _ _ => rfl⟩
  | some value =>
    have hgive : p.give o value = .ok { p with values := (o, value) :: p.values } := by
      unfold give
      rw [hgiven, if_neg (by decide), if_neg]
      rw [Bool.and_eq_true]
      rintro ⟨ho, hempty⟩
      exact hpath ho (congrArg some (List.isEmpty_iff.mp hempty))
    refine ⟨_, hgive, rfl, rfl, List.lookup_cons_self, fun other hother => ?_⟩
    unfold value?
    rw [lookup_cons_eq_ite, if_neg hother]

theorem Progress.fallBack_of_emptyPath {env : Environment} {p : Progress} {o : ValueOption}
    (hgiven : p.value? o = none) (hvalue : o.environmentName?.bind env.get? = some [])
    (hpath : o.isPath = true) : fallBack env p o = .error .emptyPath := by
  unfold fallBack
  rw [hgiven, hvalue, if_neg (by decide)]
  dsimp only
  rw [give, hgiven, if_neg (by decide), hpath]
  rfl

/-- All options that fall back on variables do so, in order. -/
theorem Progress.foldlM_fallBack {env : Environment} {p : Progress}
    (hgiven : ∀ o, p.value? o = none) (hroot : env.get? "OUTPUT_DIR" ≠ some []) :
    ∃ p', [ValueOption.outputRoot, .referenceBase, .apiKey].foldlM (fallBack env) p = .ok p' ∧
      p'.yamlPath = p.yamlPath ∧ p'.printPrompt = p.printPrompt ∧
      p'.value? .sessionFolder = none ∧ p'.value? .outputRoot = env.get? "OUTPUT_DIR" ∧
      p'.value? .referenceBase = env.get? "ASSETS_BASE" ∧
      p'.value? .apiKey = env.get? "GEMINI_API_KEY" := by
  obtain ⟨p₁, hp₁, hyaml₁, hprint₁, hvalue₁, hother₁⟩ :=
    fallBack_eq_ok env .outputRoot (hgiven _) rfl fun _ => hroot
  obtain ⟨p₂, hp₂, hyaml₂, hprint₂, hvalue₂, hother₂⟩ :=
    fallBack_eq_ok env .referenceBase ((hother₁ _ (by decide)).trans (hgiven _)) rfl nofun
  obtain ⟨p₃, hp₃, hyaml₃, hprint₃, hvalue₃, hother₃⟩ :=
    fallBack_eq_ok env .apiKey
      ((hother₂ _ (by decide)).trans ((hother₁ _ (by decide)).trans (hgiven _))) rfl nofun
  refine ⟨p₃, ?_, hyaml₃.trans (hyaml₂.trans hyaml₁), hprint₃.trans (hprint₂.trans hprint₁), ?_, ?_,
    ?_, hvalue₃⟩
  · rw [List.foldlM_cons, hp₁]
    show [ValueOption.referenceBase, .apiKey].foldlM (fallBack env) p₁ = _
    rw [List.foldlM_cons, hp₂]
    show [ValueOption.apiKey].foldlM (fallBack env) p₂ = _
    rw [List.foldlM_cons, hp₃]
    rfl
  · rw [hother₃ _ (by decide), hother₂ _ (by decide), hother₁ _ (by decide), hgiven]
  · rw [hother₃ _ (by decide), hother₂ _ (by decide), hvalue₁]
    rfl
  · rw [hother₃ _ (by decide), hvalue₂]
    rfl

/-- **What a command line that names only a document asks for is what the variables are set to.** It
is refused if the root is set to nothing. -/
theorem parse_document (env : Environment) {path : Text} (h : NamesDocument path) :
    parse env [path] =
      if env.get? "OUTPUT_DIR" = some [] then .error .emptyPath
      else .ok {
        yamlPath := path
        sessionFolder := none
        outputRoot := env.get? "OUTPUT_DIR"
        referenceBase := env.get? "ASSETS_BASE"
        apiKey := env.get? "GEMINI_API_KEY"
        printPrompt := false } := by
  have hread : parse env [path] = Progress.finish env { pending := .path path, pathSeen := true } := by
    rw [parse, List.foldlM_cons, step_document h]
    rfl
  have hsettled : Progress.settle { pending := .path path, pathSeen := true } =
      .ok { yamlPath := some path, pathSeen := true } := by
    have hpath : path.isEmpty = false := by simpa using h.ne_nil
    simp [Progress.settle, hpath]
  rw [hread, Progress.finish, hsettled]
  show ([ValueOption.outputRoot, .referenceBase, .apiKey].foldlM (Progress.fallBack env)
    { yamlPath := some path, pathSeen := true } >>= _) = _
  by_cases hroot : env.get? "OUTPUT_DIR" = some []
  · rw [if_pos hroot, List.foldlM_cons, Progress.fallBack_of_emptyPath (o := .outputRoot) rfl hroot rfl]
    rfl
  · obtain ⟨p, hp, hyaml, hprint, hsession, hvalues⟩ :=
      Progress.foldlM_fallBack (p := { yamlPath := some path, pathSeen := true }) (fun _ => rfl) hroot
    rw [if_neg hroot, hp]
    simp only [bind, Except.bind, hyaml, hprint, hsession, hvalues]

end Arguments

/-! ### The command -/

namespace Command

/-- The command generates a page with what its arguments hold, or else its settings. -/
theorem generate_eq (i : Input) (env : Environment) (settings : Settings) (a : Arguments)
    (yaml : Text) :
    generate i env settings a yaml =
      generate i env
        { settings with
          referenceBase := a.referenceBase.getD settings.referenceBase
          outputRoot := a.outputRoot.getD settings.outputRoot }
        { a with referenceBase := none, outputRoot := none } yaml :=
  rfl

/-- A blank base names a directory. -/
theorem ofBase_of_allBlank {base : Text} (h : Text.allBlank base = true) :
    Reference.Place.ofBase base = .directory base := by
  have hblank : ∀ c ∈ base, Text.isBlank c = true := List.all_eq_true.mp h
  have haddress : Reference.isAddress base = false := by
    cases base with
    | nil => rfl
    | cons c rest =>
      have hc : c ≠ 'h' := by
        rintro rfl
        exact absurd (hblank 'h' List.mem_cons_self) (by decide)
      simp [Reference.isAddress, List.isPrefixOf, Ne.symm hc]
  rw [Reference.Place.ofBase, haddress, if_neg Bool.false_ne_true]

/-- The base of the reference images is that of the settings unless its variable is blank. -/
theorem ofBase_eq_iff {env : Environment} {settings : Settings}
    (h : Settings.ofEnvironment env = .ok settings) :
    Reference.Place.ofBase ((env.get? "ASSETS_BASE").getD settings.referenceBase) =
      Reference.Place.ofBase settings.referenceBase ↔ ¬ env.IsBlank "ASSETS_BASE" := by
  obtain ⟨hbase, -⟩ := Settings.places_of_ofEnvironment h
  rw [hbase]
  constructor
  · rintro heq ⟨value, hget, hblank⟩
    rw [Settings.valueOr_of_isBlank _ ⟨value, hget, hblank⟩, hget, Option.getD_some,
      ofBase_of_allBlank hblank] at heq
    obtain rfl : value = "public/characters" := Reference.Place.directory.inj heq
    exact absurd hblank (by decide)
  · intro hblank
    rw [(Settings.getD_valueOr_eq_iff env "ASSETS_BASE" _ (by decide)).mpr hblank]

/-- **A command line that names only a document leaves the command to its settings, as long as
neither variable is blank.** In every environment that gives settings it is understood, unless the
root is set to nothing. The base of the reference images and the root of the saved pages are those of
a service with the settings, each if and only if its variable is not blank. If neither is, a document
that can be read is generated as the settings alone have it. -/
theorem run_of_document {i : Input} {settings : Settings} {path : Text}
    (hsettings : Settings.ofEnvironment (fullEnvironment i) = .ok settings)
    (harguments : i.arguments = [path]) (hpath : Arguments.NamesDocument path) :
    let env := fullEnvironment i
    let service := Service.ofSettings env settings
    ((∃ a, Arguments.parse env i.arguments = .ok a) ↔ env.get? "OUTPUT_DIR" ≠ some []) ∧
    (env.get? "OUTPUT_DIR" = some [] → run i = { exit := 2, files := i.files }) ∧
    ∀ a, Arguments.parse env i.arguments = .ok a →
      a = {
        yamlPath := path
        sessionFolder := none
        outputRoot := env.get? "OUTPUT_DIR"
        referenceBase := env.get? "ASSETS_BASE"
        apiKey := env.get? "GEMINI_API_KEY"
        printPrompt := false } ∧
      (Reference.Place.ofBase (a.referenceBase.getD settings.referenceBase) = service.references ↔
        ¬ env.IsBlank "ASSETS_BASE") ∧
      (a.outputRoot.getD settings.outputRoot = service.outputRoot ↔ ¬ env.IsBlank "OUTPUT_DIR") ∧
      (¬ env.IsBlank "ASSETS_BASE" → ¬ env.IsBlank "OUTPUT_DIR" →
        ∀ yaml, i.files.textAt path = .ok yaml →
          run i = generate i env settings { a with referenceBase := none, outputRoot := none }
            yaml) := by
  intro env service
  have hparse := Arguments.parse_document env hpath
  rw [harguments, hparse]
  refine ⟨?_, fun hroot => ?_, fun a ha => ?_⟩
  · by_cases hroot : env.get? "OUTPUT_DIR" = some []
    · rw [if_pos hroot]
      exact ⟨fun ⟨_, ha⟩ => (nomatch ha), fun hne => absurd hroot hne⟩
    · rw [if_neg hroot]
      exact ⟨fun _ => hroot, fun _ => ⟨_, rfl⟩⟩
  · rw [if_pos hroot] at hparse
    unfold run
    rw [harguments]
    dsimp only
    rw [show Arguments.parse (fullEnvironment i) [path] = .error .emptyPath from hparse]
  · by_cases hroot : env.get? "OUTPUT_DIR" = some []
    · rw [if_pos hroot] at ha
      cases ha
    · rw [if_neg hroot] at hparse ha
      cases ha
      obtain ⟨hbase, houtput⟩ := Settings.places_of_ofEnvironment hsettings
      have hrootIff := Settings.getD_valueOr_eq_iff env "OUTPUT_DIR" "output" (by decide)
      rw [← houtput] at hrootIff
      refine ⟨rfl, ofBase_eq_iff hsettings, hrootIff, fun hassets hout yaml hyaml => ?_⟩
      have hassetsEq := (Settings.getD_valueOr_eq_iff env "ASSETS_BASE" "public/characters"
        (by decide)).mpr hassets
      rw [← hbase] at hassetsEq
      have hprepared : Prepared i _ settings yaml :=
        ⟨(congrArg _ harguments).trans hparse, hsettings, hyaml⟩
      rw [hprepared.run_eq, if_neg Bool.false_ne_true, generate_eq]
      dsimp only
      rw [hassetsEq, hrootIff.mpr hout]

/-- The base comes from the environment and the root from the file of assignments. -/
theorem run_of_assignedRoot :
    let i : Input := {
      arguments := ["page.yaml"]
      environment := [("ASSETS_BASE", "art")]
      files := {
        entries := [
          ([".env".toList], .file (Text.encode "OUTPUT_DIR=pages")),
          (["page.yaml".toList], .file (Text.encode "comic_page:"))] }
      date := ⟨2025, 11, 2⟩, answers := [], served := fun _ => .lost }
    let settings : Settings := {
      port := 8080, logFilter := "info", apiBase := Generation.defaultBase
      model := Generation.defaultModel, timeoutSeconds := 180, referenceBase := "art"
      credentialPath := ".manga/credentials.json", outputRoot := "pages" }
    run i = generate i (fullEnvironment i) settings
      { yamlPath := "page.yaml", sessionFolder := none, outputRoot := none, referenceBase := none
        apiKey := none, printPrompt := false } "comic_page:" := by
  intro i settings
  have henv : fullEnvironment i =
      ([("ASSETS_BASE", "art"), ("OUTPUT_DIR", "pages")] : List (Text × Text)) := by
    decide +kernel
  have hpath : Arguments.NamesDocument "page.yaml" := ⟨by decide, fun h => absurd h (by decide)⟩
  have hsettings : Settings.ofEnvironment (fullEnvironment i) = .ok settings := by
    rw [henv]
    exact eq_ok_of_toOption (by decide +kernel)
  have hyaml : i.files.textAt "page.yaml" = .ok "comic_page:" :=
    eq_ok_of_toOption (by decide +kernel)
  have hset : ∀ {name value : Text}, (fullEnvironment i).get? name = some value →
      Text.allBlank value = false → ¬ (fullEnvironment i).IsBlank name := by
    rintro name value hget hvalue ⟨other, hother, hblank⟩
    obtain rfl := Option.some.inj (hget.symm.trans hother)
    rw [hvalue] at hblank
    cases hblank
  have hkey : (fullEnvironment i).get? "GEMINI_API_KEY" = none := by
    rw [henv]
    decide +kernel
  have hroot : (fullEnvironment i).get? "OUTPUT_DIR" = some "pages" := by
    rw [henv]
    decide +kernel
  have hbase : (fullEnvironment i).get? "ASSETS_BASE" = some "art" := by
    rw [henv]
    decide +kernel
  obtain ⟨hunderstood, -, hall⟩ := run_of_document hsettings rfl hpath
  obtain ⟨a, ha⟩ := hunderstood.mpr (by rw [hroot]; decide)
  obtain ⟨rfl, -, -, hrun⟩ := hall a ha
  rw [hrun (hset hbase (by decide)) (hset hroot (by decide)) _ hyaml, hkey]

/-- A root that is set to nothing is no path, and a base of white space stands for itself; the
settings have their default for both. -/
theorem parse_of_blankVariables :
    ((Settings.ofEnvironment [("OUTPUT_DIR", [])]).toOption.map Settings.outputRoot =
        some "output".toList ∧
      Arguments.parse [("OUTPUT_DIR", [])] ["page.yaml"] = .error .emptyPath) ∧
    (Settings.ofEnvironment [("ASSETS_BASE", " ")]).toOption.map Settings.referenceBase =
        some "public/characters".toList ∧
      (Arguments.parse [("ASSETS_BASE", " ")] ["page.yaml"]).toOption.map Arguments.referenceBase =
        some (some " ".toList) := by
  refine ⟨⟨by decide +kernel, ?_⟩, by decide +kernel, by decide +kernel⟩
  rfl

end Command

end MangaPress
