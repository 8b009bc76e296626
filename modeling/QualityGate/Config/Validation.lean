import QualityGate.Config.Basic
import QualityGate.Rule.Check
import QualityGate.Toml.Parser

/-!
# Validation of configurations

A configuration is validated once, as a whole, when it is read; nothing that works with it looks at
names or references again.  The first problem counts, in this order: units, stages, the secondary
suite, rules, and the globs of the sources.

* Names are unique.  Those of units have to differ even without regard to case, because a manifest
  is a file and a file system may ignore case.
* A stage that depends on a unit names one by its name in lower case.
* Commands are not blank, and all globs and rules compile.
-/

namespace QualityGate

/-- Why there is no configuration. -/
inductive ConfigError where
  /-- The file cannot be read. -/
  | unreadable (path error : String)
  /-- The text is no document of this form. -/
  | malformed
  | duplicateStage (id : String)
  | duplicateUnit (id : String)
  /-- Two names of units differ only by case. -/
  | unitCaseClash (first second : String)
  | duplicateRule (id : String)
  | unknownUnit (stage unit : String)
  /-- A stage or the secondary suite has nothing to run. -/
  | emptyCommand (owner : String)
  | invalidGlob (owner : String) (cause : GlobError)
  | invalidRule (cause : RuleError)
  deriving DecidableEq, Repr

namespace ConfigError

/-- The error as text. -/
def message : ConfigError → String
  | unreadable path error => s!"cannot read {path}: {error}"
  | malformed => "invalid config: TOML parse error at an unknown position"
  | duplicateStage id => s!"duplicate stage id: {id}"
  | duplicateUnit id => s!"duplicate unit id: {id}"
  | unitCaseClash first second => s!"unit ids '{first}' and '{second}' differ only by case"
  | duplicateRule id => s!"duplicate rule id: {id}"
  | unknownUnit stage unit => s!"stage '{stage}' references unknown unit '{unit}'"
  | emptyCommand owner => s!"'{owner}' has an empty command"
  | invalidGlob owner cause => s!"'{owner}': {cause.message}"
  | invalidRule cause => cause.message

/-- The texts of the errors that caused this one, the nearest first. -/
def causes : ConfigError → List String
  | unreadable _ error => [error]
  | malformed => ["TOML parse error at an unknown position"]
  | invalidGlob _ cause => [cause.message]
  | invalidRule cause => cause.causes
  | _ => []

end ConfigError

namespace Config

/-- The name of a unit without regard to the case of ASCII letters. -/
def foldedId (id : String) : String := String.ofList (id.toList.map Char.toLower)

/-- Globs have to compile. -/
def checkGlobs (owner : String) (globs : List String) : Except ConfigError Unit :=
  match Glob.ofStrings globs with
  | .ok _ => .ok ()
  | .error cause => .error (.invalidGlob owner cause)

/-- Check some units that follow units with these names. -/
def checkUnits (earlier : List String) : List ConfigUnit → Except ConfigError Unit
  | [] => .ok ()
  | unit :: rest =>
    match earlier.find? fun id => foldedId id == foldedId unit.id with
    | some first =>
      .error (if first = unit.id then .duplicateUnit first else .unitCaseClash first unit.id)
    | none => do
      checkGlobs unit.id unit.files
      checkUnits (unit.id :: earlier) rest

/-- Check a stage against the units. -/
def checkStage (units : List ConfigUnit) (stage : Stage) : Except ConfigError Unit := do
  if Text.isBlankString stage.command then .error (.emptyCommand stage.id)
  if stage.hasUnit && ! units.any (foldedId ·.id == stage.unit) then
    .error (.unknownUnit stage.id stage.unit)
  checkGlobs stage.id stage.files
  checkGlobs stage.id stage.requires

/-- Check some stages that follow stages with these names. -/
def checkStages (units : List ConfigUnit) (earlier : List String) :
    List Stage → Except ConfigError Unit
  | [] => .ok ()
  | stage :: rest =>
    if earlier.contains stage.id then .error (.duplicateStage stage.id)
    else do
      checkStage units stage
      checkStages units (stage.id :: earlier) rest

/-- Check the secondary suite. -/
def checkSecondary : Option SecondarySuite → Except ConfigError Unit
  | some suite =>
    if Text.isBlankString suite.command then .error (.emptyCommand "secondary") else .ok ()
  | none => .ok ()

/-- Check some rules that follow rules with these names. -/
def checkRules (earlier : List String) : List RuleSpec → Except ConfigError Unit
  | [] => .ok ()
  | spec :: rest =>
    if earlier.contains spec.id then .error (.duplicateRule spec.id)
    else match Rule.ofSpec spec with
      | .error cause => .error (.invalidRule cause)
      | .ok _ => checkRules (spec.id :: earlier) rest

/-- Check a configuration as a whole. -/
def validate (config : Config) : Except ConfigError Unit := do
  checkUnits [] config.units
  checkStages config.units [] config.stages
  checkSecondary config.secondary
  checkRules [] config.rules
  checkGlobs "project.sources" config.project.sources

/-- Read and check the text of a configuration. -/
def parse (text : String) : Except ConfigError Config := do
  match (Toml.parse? text).bind (Config.ofJson? .toml) with
  | none => .error .malformed
  | some config =>
    config.validate
    return config

end Config

end QualityGate
