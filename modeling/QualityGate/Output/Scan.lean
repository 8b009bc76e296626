import QualityGate.Output.Ink
import QualityGate.Rule.Fix
import QualityGate.Rule.Scan

/-!
# The outcome of a scan

Files that were skipped, violations, fixes, and one line with the verdict.
-/

namespace QualityGate

/-- The outcome of a scan. -/
structure ScanResult where
  passed : Bool
  filesScanned : Nat
  violations : List Violation
  skipped : List SkippedFile
  /-- The fixes that were written. -/
  fixes : List FileFix
  deriving DecidableEq, Repr

namespace ScanResult

/-- The line with the verdict. -/
def summaryLine (color : Bool) (result : ScanResult) : String :=
  if result.passed then
    let word := Ink.boldGreen.paint color "PASS"
    s!"{word}: {result.filesScanned} file(s) scanned, no violations"
  else
    let word := Ink.boldRed.paint color "FAIL"
    s!"{word}: {result.violations.length} violation(s) in {result.filesScanned} file(s) scanned"

/-- The outcome for people. -/
def human (color : Bool) (result : ScanResult) : String :=
  let warning := Ink.yellow.paint color "warning:"
  unlines (
    (result.skipped.map fun file => s!"{warning} skipped {file.path}: {file.error}")
    ++ result.violations.map Violation.text
    ++ (result.fixes.map fun fix => s!"fixed {fix.path} ({fix.replacements} replacement(s))")
    ++ [summaryLine color result])

/-- The outcome as a record. -/
def toJson (result : ScanResult) : Json := .obj [
  ("passed", .bool result.passed),
  ("files_scanned", .nat result.filesScanned),
  ("violations", .arr (result.violations.map Violation.toJson)),
  ("skipped", .arr (result.skipped.map SkippedFile.toJson)),
  ("fixes", .arr (result.fixes.map FileFix.toJson))]

end ScanResult

end QualityGate
