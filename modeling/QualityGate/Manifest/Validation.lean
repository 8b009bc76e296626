import QualityGate.Json.Parser
import QualityGate.Manifest.Basic
import QualityGate.Path

/-!
# Stored manifests

A stored manifest is trusted only if it could have been generated: every path is in normal form and
stands once, every digest has the form that the algorithm gives it, and the digest over all entries
is the one that follows from them.  The first thing that is wrong is reported.
-/

namespace QualityGate

/-- What is wrong with a manifest. -/
inductive ManifestProblem where
  | notReadable
  | emptyUnit
  | noFiles
  | pathNotNormal (path : String)
  | duplicatePath (path : String)
  | invalidDigest (algorithm : Algorithm) (path : String)
  | invalidUnitDigest (algorithm : Algorithm)
  | unitDigestMismatch
  deriving DecidableEq, Repr

/-- The problem as text. -/
def ManifestProblem.message : ManifestProblem → String
  | notReadable => "not a manifest in JSON"
  | emptyUnit => "empty unit"
  | noFiles => "empty file list"
  | pathNotNormal path => s!"path not normalized: {path}"
  | duplicatePath path => s!"duplicate path: {path}"
  | invalidDigest algorithm path => s!"invalid {algorithm.name} digest for {path}"
  | invalidUnitDigest algorithm => s!"invalid {algorithm.name} unit digest"
  | unitDigestMismatch => "unitDigest does not match files"

namespace Manifest

/-- What is wrong with the entries, when the paths before them are `seen`. -/
def entryProblem? (algorithm : Algorithm) :
    List String → List ManifestEntry → Option ManifestProblem
  | _, [] => none
  | seen, entry :: entries =>
    if Path.normalize entry.path ≠ entry.path ∨ entry.path.isEmpty then
      some (.pathNotNormal entry.path)
    else if seen.contains entry.path then some (.duplicatePath entry.path)
    else if ! algorithm.isDigest entry.digest then some (.invalidDigest algorithm entry.path)
    else entryProblem? algorithm (entry.path :: seen) entries

/-- What is wrong with a manifest. -/
def problem? (manifest : Manifest) : Option ManifestProblem :=
  if Text.isBlankString manifest.unit then some .emptyUnit
  else if manifest.files.isEmpty then some .noFiles
  else match entryProblem? manifest.algorithm [] manifest.files with
    | some problem => some problem
    | none =>
      if ! manifest.algorithm.isDigest manifest.unitDigest then
        some (.invalidUnitDigest manifest.algorithm)
      else if ManifestEntry.unitDigest manifest.algorithm manifest.files ≠ manifest.unitDigest then
        some .unitDigestMismatch
      else none

/-- Read and check a stored manifest. -/
def parse (raw : String) : Except ManifestProblem Manifest :=
  match (Json.parse? raw).bind ofJson? with
  | none => .error .notReadable
  | some manifest =>
    match manifest.problem? with
    | some problem => .error problem
    | none => .ok manifest

end Manifest

end QualityGate
