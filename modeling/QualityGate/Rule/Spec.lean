import QualityGate.Glob
import QualityGate.Json.Decode
import QualityGate.Source.Region

/-!
# Rules as they are written down

A rule specification names what to look for in exactly one of three ways: a list of terms, a
pattern, or a claim.  Everything else about it has a default.
-/

namespace QualityGate

/-- A rule as a project writes it. -/
structure RuleSpec where
  id : String
  message : String
  /-- Texts to look for as they are. -/
  terms : List String := []
  /-- A regular expression to look for. -/
  pattern : Option String := none
  /-- A regular expression whose first group names what a file claims for itself. -/
  claim : Option String := none
  /-- Terms count only between word boundaries. -/
  wordBoundary : Bool := false
  ignoreCase : Bool := false
  region : Source.Region := .code
  /-- Lines that match this are not reported. -/
  exempt : Option String := none
  /-- Globs of the files that the rule looks at; none means all. -/
  files : List String := []
  /-- Locales in which the rule is active; none means all. -/
  locales : List String := []
  /-- What a match is replaced with. -/
  replacement : Option String := none
  deriving DecidableEq, Repr

/-- Why a specification is not a rule. -/
inductive RuleError where
  | invalidRegex (rule : String) (cause : Regex.Error)
  | invalidGlob (rule : String) (cause : GlobError)
  /-- No term is left once blanks are trimmed. -/
  | emptyTerms (rule : String)
  /-- Neither terms nor a pattern nor a claim. -/
  | noMatcher (rule : String)
  /-- More than one of them. -/
  | conflictingMatchers (rule : String)
  /-- A claim whose pattern has no group. -/
  | claimWithoutGroup (rule : String)
  /-- A rule was asked for that does not exist. -/
  | unknownRule (rule : String)
  deriving DecidableEq, Repr

namespace RuleError

/-- The error as text. -/
def message : RuleError → String
  | invalidRegex rule cause => s!"rule '{rule}': invalid regex: {cause.message}"
  | invalidGlob rule cause => s!"rule '{rule}': {cause.message}"
  | emptyTerms rule => s!"rule '{rule}': literal set is empty"
  | noMatcher rule => "rule '" ++ rule ++ "': one of `terms`, `pattern` or `claim` is required"
  | conflictingMatchers rule =>
    "rule '" ++ rule ++ "': `terms`, `pattern` and `claim` are mutually exclusive"
  | claimWithoutGroup rule => s!"rule '{rule}': claim pattern needs a capture group"
  | unknownRule rule => s!"unknown rule: {rule}"

/-- The texts of the errors that caused this one, the nearest first. -/
def causes : RuleError → List String
  | invalidRegex _ cause => [cause.message]
  | invalidGlob _ cause => [cause.message]
  | _ => []

end RuleError

namespace RuleSpec

/-- The specification as a record. -/
def toJson (spec : RuleSpec) : Json :=
  .obj ([("id", .str spec.id), ("message", .str spec.message)]
    ++ Json.listMember "terms" spec.terms
    ++ Json.optMember "pattern" .str spec.pattern
    ++ Json.optMember "claim" .str spec.claim
    ++ [("word_boundary", .bool spec.wordBoundary), ("ignore_case", .bool spec.ignoreCase),
      ("region", .str spec.region.name)]
    ++ Json.optMember "exempt" .str spec.exempt
    ++ Json.listMember "files" spec.files
    ++ Json.listMember "locales" spec.locales
    ++ Json.optMember "replacement" .str spec.replacement)

/-- Read a specification. -/
def ofJson? (dialect : Json.Dialect) (json : Json) : Option RuleSpec := do
  let strings := Json.orElse [] (Json.list? Json.string?)
  let text := Json.orElse none (Json.nullable? Json.string?)
  let flag := Json.orElse false Json.bool?
  match ← Json.fields? dialect ["id", "message", "terms", "pattern", "claim", "word_boundary",
    "ignore_case", "region", "exempt", "files", "locales", "replacement"] json with
  | [id, message, terms, pattern, claim, wordBoundary, ignoreCase, region, exempt, files, locales,
      replacement] =>
    some {
      id := ← Json.required Json.string? id
      message := ← Json.required Json.string? message
      terms := ← strings terms
      pattern := ← text pattern
      claim := ← text claim
      wordBoundary := ← flag wordBoundary
      ignoreCase := ← flag ignoreCase
      region := ← Json.orElse .code (Json.choice? dialect Source.Region.names) region
      exempt := ← text exempt
      files := ← strings files
      locales := ← strings locales
      replacement := ← text replacement }
  | _ => none

end RuleSpec

end QualityGate
