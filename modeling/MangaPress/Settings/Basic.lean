/-
# Settings

The settings of the program come from its environment. Every one of them has a default, which also
stands for a variable that is blank; the two numbers must be numbers.

Key definitions: `Settings`, `Settings.ofEnvironment`, `SettingsError`.
-/
import MangaPress.Generation.Endpoint
import MangaPress.Settings.Environment
import MangaPress.Settings.Number

namespace MangaPress

/-- The settings of the program. -/
structure Settings where
  port : Nat
  logFilter : Text
  apiBase : Text
  model : Text
  timeoutSeconds : Nat
  referenceBase : Text
  credentialPath : Path
  outputRoot : Path
deriving Repr, DecidableEq

/-- Why an environment gives no settings. -/
inductive SettingsError where
  | timeout (e : NumeralError)
  | port (e : NumeralError)
deriving Repr, DecidableEq

namespace SettingsError

/-- What is demanded of the setting. -/
def demand : SettingsError → Text
  | timeout _ => "GEMINI_TIMEOUT_SECS must be a whole number of seconds"
  | port _ => "PORT must be a valid port number"

/-- What is wrong with it. -/
def cause : SettingsError → NumeralError
  | timeout e | port e => e

/-- The wording of the error. -/
def message (e : SettingsError) : Text :=
  e.demand ++ ": " ++ e.cause.message

end SettingsError

namespace Settings

/-- The value of a variable, or a default where it is missing or blank. -/
def valueOr (env : Environment) (name fallback : Text) : Text :=
  ((env.get? name).filter fun v => !Text.allBlank v).getD fallback

/-- The largest port. -/
def maxPort : Nat := 65535

/-- The longest timeout in seconds. -/
def maxTimeout : Nat := Text.maxWord64

/-- The settings of an environment. -/
def ofEnvironment (env : Environment) : Except SettingsError Settings := do
  let timeoutSeconds ←
    (Numeral.parse maxTimeout (valueOr env "GEMINI_TIMEOUT_SECS" "180")).mapError .timeout
  let port ← (Numeral.parse maxPort (valueOr env "PORT" "8080")).mapError .port
  .ok {
    port, timeoutSeconds
    logFilter := valueOr env "RUST_LOG" "info"
    apiBase := valueOr env "GEMINI_API_BASE" Generation.defaultBase
    model := valueOr env "GEMINI_MODEL" Generation.defaultModel
    referenceBase := valueOr env "ASSETS_BASE" "public/characters"
    credentialPath := valueOr env "CREDENTIALS_PATH" ".manga/credentials.json"
    outputRoot := valueOr env "OUTPUT_DIR" "output" }

end Settings

end MangaPress
