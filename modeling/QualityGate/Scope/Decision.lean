import QualityGate.Stage.Suite

/-!
# Whether the secondary suite runs

The decision is a pure function of evidence that is gathered beforehand.  The first of these steps
that applies decides.

1. The suite has no directory: it does not run.
2. The changes are known and touch a tracked subtree: it runs.
3. There is no marker of a last verification: it runs.
4. It is not known whether files are newer than the marker: it does not run.
5. It runs exactly when some are.
-/

namespace QualityGate

/-- What the decision is made from. -/
structure ScopeEvidence where
  suiteDirExists : Bool
  /-- The changed paths, if they are known. -/
  changedPaths : Option (List String)
  /-- The marker of the last verification. -/
  lastVerifiedAt : Option String
  /-- Whether a tracked file is newer than the marker, if that is known. -/
  anyNewer : Option Bool
  deriving DecidableEq, Repr

/-- The step that decided. -/
inductive DecisionReason where
  | noSuiteDir
  | diffTouchesTrackedPaths
  | noBaseline
  | freshnessUnknown
  | newerFiles
  | upToDate
  deriving DecidableEq, Repr

/-- Whether the suite runs, and why. -/
structure ScopeDecision where
  runs : Bool
  reason : DecisionReason
  deriving DecidableEq, Repr

namespace DecisionReason

/-- The reason as text. -/
def text : DecisionReason → String
  | noSuiteDir => "secondary suite directory does not exist"
  | diffTouchesTrackedPaths => "diff touches tracked paths"
  | noBaseline => "no last-verified baseline"
  | freshnessUnknown => "cannot tell whether files changed since baseline"
  | newerFiles => "files modified since last verification"
  | upToDate => "nothing modified since last verification"

/-- The name of the reason in documents. -/
def name : DecisionReason → String
  | noSuiteDir => "no_suite_dir"
  | diffTouchesTrackedPaths => "diff_touches_tracked_paths"
  | noBaseline => "no_baseline"
  | freshnessUnknown => "freshness_unknown"
  | newerFiles => "newer_files"
  | upToDate => "up_to_date"

/-- The reasons with their names. -/
def names : List (String × DecisionReason) := [("no_suite_dir", noSuiteDir),
  ("diff_touches_tracked_paths", diffTouchesTrackedPaths), ("no_baseline", noBaseline),
  ("freshness_unknown", freshnessUnknown), ("newer_files", newerFiles), ("up_to_date", upToDate)]

end DecisionReason

namespace ScopeDecision

/-- The decision as a record. -/
def toJson (decision : ScopeDecision) : Json := .obj [
  ("run_secondary_suite", .bool decision.runs), ("reason", .str decision.reason.name)]

/-- Read a decision. -/
def ofJson? (json : Json) : Option ScopeDecision := do
  match ← Json.fields? .json ["run_secondary_suite", "reason"] json with
  | [runs, reason] =>
    some {
      runs := ← Json.required Json.bool? runs
      reason := ← Json.required (Json.choice? .json DecisionReason.names) reason }
  | _ => none

end ScopeDecision

namespace ScopeEvidence

/-- Whether a change that is known touches a tracked subtree. -/
def touchesTracked (evidence : ScopeEvidence) (suite : SecondarySuite) : Bool :=
  evidence.changedPaths.any fun paths => paths.any suite.tracks

/-- Whether there is a marker. -/
def hasMarker (evidence : ScopeEvidence) : Bool :=
  evidence.lastVerifiedAt.any fun marker => ! Text.isBlankString marker

/-- Decide whether the suite runs. -/
def decide (evidence : ScopeEvidence) (suite : SecondarySuite) : ScopeDecision :=
  if ! evidence.suiteDirExists then ⟨false, .noSuiteDir⟩
  else if evidence.touchesTracked suite then ⟨true, .diffTouchesTrackedPaths⟩
  else if ! evidence.hasMarker then ⟨true, .noBaseline⟩
  else match evidence.anyNewer with
    | none => ⟨false, .freshnessUnknown⟩
    | some true => ⟨true, .newerFiles⟩
    | some false => ⟨false, .upToDate⟩

/-- The evidence as a record. -/
def toJson (evidence : ScopeEvidence) : Json := .obj [
  ("suite_dir_exists", .bool evidence.suiteDirExists),
  ("changed_paths", Json.opt .strs evidence.changedPaths),
  ("last_verified_at", Json.opt .str evidence.lastVerifiedAt),
  ("any_file_newer_than_last_verified", Json.opt .bool evidence.anyNewer)]

/-- Read evidence. -/
def ofJson? (json : Json) : Option ScopeEvidence := do
  match ← Json.fields? .json ["suite_dir_exists", "changed_paths", "last_verified_at",
    "any_file_newer_than_last_verified"] json with
  | [suiteDirExists, changedPaths, lastVerifiedAt, anyNewer] =>
    some {
      suiteDirExists := ← Json.required Json.bool? suiteDirExists
      changedPaths := ← Json.orElse none (Json.nullable? (Json.list? Json.string?)) changedPaths
      lastVerifiedAt := ← Json.orElse none (Json.nullable? Json.string?) lastVerifiedAt
      anyNewer := ← Json.orElse none (Json.nullable? Json.bool?) anyNewer }
  | _ => none

end ScopeEvidence

end QualityGate
