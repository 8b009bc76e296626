import QualityGate.Digest.Algorithm
import QualityGate.Json.Decode
import QualityGate.Locale
import QualityGate.Rule.Spec
import QualityGate.Stage.Basic
import QualityGate.Stage.Suite
import QualityGate.Unit.Basic

/-!
# Configurations

What a project declares about itself: some settings, the stages in the order of execution, an
optional secondary suite, the rules of the scanner and the configuration units.  Whatever is left
out has a default, so the empty configuration is one.
-/

namespace QualityGate

/-- The settings of a project. -/
structure ProjectSettings where
  /-- The language of the texts that the project shows to its users. -/
  locale : String := "en"
  algorithm : Algorithm := .sha256
  /-- The limit in seconds of a stage without its own. -/
  defaultTimeoutSecs : Nat := 600
  /-- The revision that changed paths are computed against. -/
  baselineRef : String := "HEAD"
  /-- Globs of the files that a scan covers when none are named. -/
  sources : List String :=
    ["**/*.ts", "**/*.tsx", "**/*.js", "**/*.jsx", "**/*.mjs", "**/*.cjs"]
  deriving DecidableEq, Repr

namespace ProjectSettings

/-- The settings as a record. -/
def toJson (settings : ProjectSettings) : Json := .obj [
  ("locale", .str settings.locale), ("algorithm", .str settings.algorithm.name),
  ("default_timeout_secs", .nat settings.defaultTimeoutSecs),
  ("baseline_ref", .str settings.baselineRef), ("sources", .strs settings.sources)]

/-- Read settings. -/
def ofJson? (dialect : Json.Dialect) (json : Json) : Option ProjectSettings := do
  let unset : ProjectSettings := {}
  match ← Json.fields? dialect ["locale", "algorithm", "default_timeout_secs", "baseline_ref",
    "sources"] json with
  | [locale, algorithm, defaultTimeoutSecs, baselineRef, sources] =>
    some {
      locale := ← Json.orElse unset.locale Json.string? locale
      algorithm := ← Json.orElse unset.algorithm (Json.choice? dialect Algorithm.names) algorithm
      defaultTimeoutSecs := ← Json.orElse unset.defaultTimeoutSecs Json.nat? defaultTimeoutSecs
      baselineRef := ← Json.orElse unset.baselineRef Json.string? baselineRef
      sources := ← Json.orElse unset.sources (Json.list? Json.string?) sources }
  | _ => none

end ProjectSettings

/-- The configuration of a project. -/
structure Config where
  project : ProjectSettings := {}
  stages : List Stage := []
  secondary : Option SecondarySuite := none
  rules : List RuleSpec := []
  units : List ConfigUnit := []
  deriving DecidableEq, Repr

namespace Config

/-- The locale that selects rules. -/
def locale (config : Config) : Locale := .ofTag config.project.locale

/-- The configuration as a record. -/
def toJson (config : Config) : Json := .obj [
  ("project", config.project.toJson),
  ("stage", .arr (config.stages.map Stage.toJson)),
  ("secondary", Json.opt SecondarySuite.toJson config.secondary),
  ("rule", .arr (config.rules.map RuleSpec.toJson)),
  ("unit", .arr (config.units.map ConfigUnit.toJson))]

/-- Read a configuration. -/
def ofJson? (dialect : Json.Dialect) (json : Json) : Option Config := do
  match ← Json.fields? dialect ["project", "stage", "secondary", "rule", "unit"] json with
  | [project, stages, secondary, rules, units] =>
    some {
      project := ← Json.orElse {} (ProjectSettings.ofJson? dialect) project
      stages := ← Json.orElse [] (Json.list? (Stage.ofJson? dialect)) stages
      secondary := ← Json.orElse none (Json.nullable? (SecondarySuite.ofJson? dialect)) secondary
      rules := ← Json.orElse [] (Json.list? (RuleSpec.ofJson? dialect)) rules
      units := ← Json.orElse [] (Json.list? (ConfigUnit.ofJson? dialect)) units }
  | _ => none

end Config

end QualityGate
