import QualityGate.Manifest.Reason
import QualityGate.Manifest.Validation
import QualityGate.Rule.Scan

/-!
# Drift

A manifest is computed from the contents of some files, and later compared with them.  Anything that
cannot be verified counts as drift: a manifest that makes no sense, another algorithm, a file that
cannot be read.

Files are given as lists of paths, in any order and spelling; what counts is the set of their normal
forms.
-/

namespace QualityGate

/-- Why an operation on a unit fails. -/
inductive ManifestError where
  /-- There is nothing to digest. -/
  | emptyFileSet (unit : String)
  | unknownUnit (unit : String)
  | unreadable (path error : String)
  /-- A store or the listing of files fails. -/
  | store (message : String)
  deriving DecidableEq, Repr

namespace ManifestError

/-- The error as text. -/
def message : ManifestError → String
  | emptyFileSet unit => s!"unit '{unit}' matches no files"
  | unknownUnit unit => s!"unknown unit: {unit}"
  | unreadable path error => s!"cannot read {path}: {error}"
  | store message => message

/-- The texts of the errors that caused this one. -/
def causes : ManifestError → List String
  | unreadable _ error => [error]
  | _ => []

end ManifestError

namespace Manifest

/-- The normal forms of some paths, in order; the empty one is left out. -/
def normalSet (files : List String) : List String :=
  Text.sortedSet ((files.map Path.normalize).filter (· ≠ ""))

/-- The entry of a file. -/
def entryOf (read : Reader) (algorithm : Algorithm) (path : String) :
    Except String ManifestEntry :=
  (read path).map fun bytes => ⟨path, algorithm.digest bytes⟩

/-- The entries of some files; the first one that cannot be read counts. -/
def entriesOf (read : Reader) (algorithm : Algorithm) :
    List String → Except ManifestError (List ManifestEntry)
  | [] => .ok []
  | path :: paths => do
    let entry ← (entryOf read algorithm path).mapError (.unreadable path)
    return entry :: (← entriesOf read algorithm paths)

/-- The manifest of some files. -/
def compute (read : Reader) (unit : String) (files : List String) (algorithm : Algorithm)
    (now : Time.Instant) : Except ManifestError Manifest := do
  let paths := normalSet files
  if paths.isEmpty then .error (.emptyFileSet unit)
  else
    let entries ← entriesOf read algorithm paths
    return {
      unit := unit
      algorithm := algorithm
      generatedAt := now
      unitDigest := ManifestEntry.unitDigest algorithm entries
      files := entries }

/-- The files that cannot be read. -/
def unreadableOf (read : Reader) (paths : List String) : List DriftReason :=
  paths.filterMap fun path =>
    match read path with
    | .ok _ => none
    | .error error => some (.unreadable path error)

/-- The entries of the files that can be read. -/
def readableOf (read : Reader) (algorithm : Algorithm) (paths : List String) :
    List ManifestEntry :=
  paths.filterMap fun path => (entryOf read algorithm path).toOption

/-- The digest that is stored for a path; of several the last one counts. -/
def digestOf? (entries : List ManifestEntry) (path : String) : Option String :=
  (entries.reverse.find? (·.path == path)).map (·.digest)

/-- A reason about some paths, if there are any. -/
def aboutPaths (reason : List String → DriftReason) (paths : List String) : List DriftReason :=
  if paths.isEmpty then [] else [reason paths]

/-- How the stored entries differ from the live paths and the entries of those that can be read. -/
def differences (stored : List ManifestEntry) (live : List String) (entries : List ManifestEntry) :
    List DriftReason :=
  let known := Text.sortedSet (stored.map (·.path))
  aboutPaths .filesAdded (live.filter fun path => ! known.contains path)
    ++ aboutPaths .filesRemoved (known.filter fun path => ! live.contains path)
    ++ aboutPaths .contentChanged ((entries.filter fun entry =>
      (digestOf? stored entry.path).any (· ≠ entry.digest)).map (·.path))

/-- Compare a manifest with the live files. -/
def checkDrift (stored : Manifest) (files : List String) (read : Reader) (expected : Algorithm) :
    DriftStatus :=
  match stored.problem? with
  | some problem => .drift [.malformed problem.message]
  | none =>
    if stored.algorithm ≠ expected then .drift [.algorithmMismatch stored.algorithm expected]
    else
      let live := normalSet files
      let unreadable := unreadableOf read live
      let entries := readableOf read expected live
      if unreadable.isEmpty ∧ ManifestEntry.unitDigest expected entries = stored.unitDigest then .ok
      else match unreadable ++ differences stored.files live entries with
        | [] => .drift [.malformed "unitDigest does not match live files"]
        | reasons => .drift reasons

/-- Compare the stored text of a manifest, if there is one, with the live files. -/
def checkStored (raw : Option String) (files : List String) (read : Reader)
    (expected : Algorithm) : DriftStatus :=
  match raw with
  | none => .drift [.missing]
  | some raw =>
    match parse raw with
    | .error problem => .drift [.malformed problem.message]
    | .ok stored => stored.checkDrift files read expected

end Manifest

end QualityGate
