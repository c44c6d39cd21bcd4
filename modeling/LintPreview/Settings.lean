import LintPreview.Number.Literal
import LintPreview.Number.Shortest
import LintPreview.Json.Value
import LintPreview.Text.Case
import LintPreview.Text.Lines
import LintPreview.Text.Utf8

/-!
Settings, read from an environment of named texts.

* `Environment.fault?`: the first name or text that can stand in no environment.
* `Settings.ofEnvironment`: the settings of an environment; a name that is missing has its default.
* `Settings.faults`: the settings that make no sense, each once, in a fixed order.
* `Settings.validate`: no faults, or a single message that names them all.
-/

namespace LintPreview

/-- How the lint tool is found and run. A limit of zero asks for the details of every rule that lacks them. -/
structure ToolSettings where
  executable : Text := "swiftlint"
  searchPaths : List Text := ["/opt/homebrew/bin/swiftlint", "/usr/local/bin/swiftlint", "/usr/bin/swiftlint"]
  timeout : Binary64 := .ofInt 300
  configFileName : Text := ".swiftlint.yml"
  detailsLimit : Int := 0
  detailsConcurrency : Int := 4
deriving Repr

/-- Where the snapshot is kept, and whether it is used. -/
structure CacheSettings where
  directory : Text := "~/.cache/rulestudio"
  rulesFile : Text := "rules_cache.json"
  isEnabled : Bool := true
deriving Repr

/-- How long a request may take, and how many bytes are read. -/
structure RemoteSettings where
  timeout : Binary64 := .ofInt 30
  maxBytes : Int := 1048576
deriving Repr

/-- How scratch directories are named, and whether default exclusions are applied. -/
structure SimulationSettings where
  scratchPrefix : Text := "rulestudio-"
  applyDefaultExclusions : Bool := true
deriving Repr

/-- What is logged, how and where. -/
structure LoggingSettings where
  level : Text := "INFO"
  format : Text := "%(asctime)s - %(name)s - %(levelname)s - %(message)s"
  filePath : Option Text := none
deriving Repr

/-- All settings. -/
structure Settings where
  tool : ToolSettings := {}
  cache : CacheSettings := {}
  remote : RemoteSettings := {}
  simulation : SimulationSettings := {}
  logging : LoggingSettings := {}
deriving Repr

/-- Named texts. -/
abbrev Environment := List (Text × Text)

/-- Why a name or a text can stand in no environment: it has no bytes, or a NUL among them. -/
inductive EnvironmentFault where
  | unencodable (run : Text.LoneHalves)
  | embeddedNull
deriving DecidableEq, Repr

namespace Environment

/-- The first name or text that can stand in no environment. -/
def fault? (env : Environment) : Option EnvironmentFault :=
  env.findSome? fun (name, text) =>
    match Text.encodeName name, Text.encodeName text with
    | .error run, _ => some (.unencodable run)
    | .ok _, .error run => some (.unencodable run)
    | .ok a, .ok b => if a.contains 0 || b.contains 0 then some .embeddedNull else none

/-- The text of a name, or a default. -/
def text (env : Environment) (name default : Text) : Text := (valueUnder? name env).getD default

/-- The decimal number that the text of a name holds, or a default. -/
def decimal (env : Environment) (name : Text) (default : Binary64) : Except LiteralError Binary64 :=
  match valueUnder? name env with
  | some s => Literal.readFloat s
  | none => .ok default

/-- The whole number that the text of a name holds, or a default. -/
def whole (env : Environment) (name : Text) (default : Int) : Except LiteralError Int :=
  match valueUnder? name env with
  | some s => Literal.readInt 10 s
  | none => .ok default

/-- Whether the text of a name is `true` in any case; a missing one counts as yes. -/
def flag (env : Environment) (name : Text) : Bool :=
  match valueUnder? name env with
  | some s => Text.toLower s == "true"
  | none => true

/-- The parts between colons of the text of a name, without empty ones; a missing or empty text has the default. -/
def paths (env : Environment) (name : Text) (default : List Text) : List Text :=
  match valueUnder? name env with
  | none => default
  | some s =>
    if s.isEmpty then default
    else ((Text.splitOnChar ':' s.toList).filter (!·.isEmpty)).map Text.ofList

end Environment

namespace Settings

/-- The settings of an environment. Of two numbers that cannot be read the first one counts. -/
def ofEnvironment (env : Environment) : Except LiteralError Settings := do
  let usual : Settings := {}
  let toolTimeout ← env.decimal "LINT_TOOL_TIMEOUT" usual.tool.timeout
  let limit ← env.whole "RULE_DETAILS_LIMIT" usual.tool.detailsLimit
  let concurrency ← env.whole "RULE_DETAILS_CONCURRENCY" usual.tool.detailsConcurrency
  let remoteTimeout ← env.decimal "REMOTE_CONFIG_TIMEOUT" usual.remote.timeout
  let maxBytes ← env.whole "REMOTE_CONFIG_MAX_BYTES" usual.remote.maxBytes
  let tool : ToolSettings := {
    executable := env.text "LINT_TOOL_EXECUTABLE" usual.tool.executable
    searchPaths := env.paths "LINT_TOOL_SEARCH_PATHS" usual.tool.searchPaths
    timeout := toolTimeout
    configFileName := env.text "LINT_CONFIG_FILE_NAME" usual.tool.configFileName
    detailsLimit := limit
    detailsConcurrency := concurrency }
  let cache : CacheSettings := {
    directory := env.text "RULE_CACHE_DIR" usual.cache.directory
    rulesFile := env.text "RULE_CACHE_FILE" usual.cache.rulesFile
    isEnabled := env.flag "CACHE_ENABLE" }
  let simulation : SimulationSettings := {
    scratchPrefix := env.text "SIMULATION_SCRATCH_PREFIX" usual.simulation.scratchPrefix
    applyDefaultExclusions := env.flag "SIMULATION_DEFAULT_EXCLUSIONS" }
  let logging : LoggingSettings := {
    level := env.text "LOG_LEVEL" usual.logging.level
    format := env.text "LOG_FORMAT" usual.logging.format
    filePath := valueUnder? "LOG_FILE_PATH" env }
  return { tool, cache, remote := { timeout := remoteTimeout, maxBytes }, simulation, logging }

end Settings

/-- A setting that makes no sense. -/
inductive SettingFault where
  | noExecutable
  | toolTimeout
  | noConfigFile
  | detailsLimit
  | detailsConcurrency
  | remoteTimeout
  | maxBytes
  | noRulesFile
deriving DecidableEq, Repr

/-- The wording of a fault. -/
def SettingFault.message : SettingFault → Text
  | .noExecutable => "LINT_TOOL_EXECUTABLE must not be empty"
  | .toolTimeout => "LINT_TOOL_TIMEOUT must be positive"
  | .noConfigFile => "LINT_CONFIG_FILE_NAME must not be empty"
  | .detailsLimit => "RULE_DETAILS_LIMIT must not be negative"
  | .detailsConcurrency => "RULE_DETAILS_CONCURRENCY must be at least 1"
  | .remoteTimeout => "REMOTE_CONFIG_TIMEOUT must be positive"
  | .maxBytes => "REMOTE_CONFIG_MAX_BYTES must be positive"
  | .noRulesFile => "RULE_CACHE_FILE must not be empty"

namespace Settings

/-- Each rule for settings, with the fault of breaking it. -/
def checks (s : Settings) : List (Bool × SettingFault) := [
  (s.tool.executable == "", .noExecutable),
  (s.tool.timeout.isAtMostZero, .toolTimeout),
  (s.tool.configFileName == "", .noConfigFile),
  (s.tool.detailsLimit < 0, .detailsLimit),
  (s.tool.detailsConcurrency < 1, .detailsConcurrency),
  (s.remote.timeout.isAtMostZero, .remoteTimeout),
  (s.remote.maxBytes ≤ 0, .maxBytes),
  (s.cache.rulesFile == "", .noRulesFile)]

/-- The settings that make no sense. -/
def faults (s : Settings) : List SettingFault := (s.checks.filter (·.1)).map (·.2)

/-- The message of faults. -/
def faultMessage (faults : List SettingFault) : Text :=
  "Configuration errors: " ++ Text.intercalate ", " (faults.map SettingFault.message)

/-- Whether all settings make sense; else their faults. -/
def validate (s : Settings) : Except (List SettingFault) Unit :=
  if s.faults.isEmpty then .ok () else .error s.faults

end Settings

end LintPreview
