import QualityGate.Rule.Check

/-!
# Scanning a list of paths

Every path is read; what cannot be read, or is no UTF-8, is skipped and listed with the reason.  A
scan as a whole never fails.
-/

namespace QualityGate

open QualityGate.Text (Bytes)

/-- How the content of a file is looked up: the bytes, or why they cannot be read. -/
abbrev Reader := String → Except String Bytes

/-- A file that was not scanned. -/
structure SkippedFile where
  path : String
  error : String
  deriving DecidableEq, Repr

/-- The skipped file as a record. -/
def SkippedFile.toJson (file : SkippedFile) : Json :=
  .obj [("path", .str file.path), ("error", .str file.error)]

/-- Read one source file. -/
def SourceFile.load (read : Reader) (path : String) : Except SkippedFile SourceFile :=
  match read path with
  | .error error => .error ⟨path, error⟩
  | .ok bytes =>
    match Text.Utf8.decode? bytes with
    | none => .error ⟨path, "not valid UTF-8"⟩
    | some text => .ok (.of path text)

/-- The files and the skipped files of a list of results, each in order. -/
def partitionResults : List (Except SkippedFile SourceFile) → List SourceFile × List SkippedFile
  | [] => ([], [])
  | .ok file :: rest => let (files, skipped) := partitionResults rest; (file :: files, skipped)
  | .error file :: rest => let (files, skipped) := partitionResults rest; (files, file :: skipped)

/-- Read source files. -/
def loadSources (read : Reader) (paths : List String) : List SourceFile × List SkippedFile :=
  partitionResults (paths.map (SourceFile.load read))

/-- What a scan found. -/
structure ScanReport where
  filesScanned : Nat
  skipped : List SkippedFile
  violations : List Violation
  deriving DecidableEq, Repr

namespace ScanReport

/-- Whether there is no violation. -/
def passed (report : ScanReport) : Bool := report.violations.isEmpty

/-- The members of the report as a record. -/
def members (report : ScanReport) : List (String × Json) := [
  ("files_scanned", .nat report.filesScanned),
  ("skipped", .arr (report.skipped.map SkippedFile.toJson)),
  ("violations", .arr (report.violations.map Violation.toJson))]

end ScanReport

/-- Scan the files with these paths. -/
def RuleSet.scan (rules : RuleSet) (read : Reader) (paths : List String) :
    ScanReport × List SourceFile :=
  let (files, skipped) := loadSources read paths
  (⟨files.length, skipped, rules.run files⟩, files)

end QualityGate
