import QualityGate.Json.Decode
import QualityGate.Path

/-!
# Violations

A violation is one line of one file that a rule objects to.  Lines count from one.  Reports list
violations by file and then by line; those of one line stay in the order in which the rules
produced them, so the sort has to be stable.
-/

namespace QualityGate

/-- A defect that a rule reports. -/
structure Violation where
  ruleId : String
  /-- The path of the file. -/
  file : String
  line : Nat
  message : String
  /-- The text that was matched. -/
  snippet : Option String
  deriving DecidableEq, Repr

namespace Violation

/-- A violation without a snippet; there is no line zero. -/
def onLine (ruleId file : String) (line : Nat) (message : String) : Violation :=
  ⟨ruleId, file, max line 1, message, none⟩

/-- The line that is printed for a violation. -/
def text (v : Violation) : String :=
  let line := s!"{v.file}:{v.line} [{v.ruleId}] {v.message}"
  match v.snippet with
  | some snippet => line ++ s!" ({snippet})"
  | none => line

/-- Whether a violation may stand before another. -/
def before (a b : Violation) : Bool :=
  ((Path.order a.file b.file).then (compare a.line b.line)).isLE

/-- Violations by file and line. -/
def sort (violations : List Violation) : List Violation := violations.mergeSort before

/-- The violation as a record. -/
def toJson (v : Violation) : Json :=
  .obj ([("rule_id", .str v.ruleId), ("file", .str v.file), ("line", .nat v.line),
    ("message", .str v.message)] ++ Json.optMember "snippet" .str v.snippet)

/-- Read a violation. -/
def ofJson? (json : Json) : Option Violation := do
  match ← Json.fields? .json ["rule_id", "file", "line", "message", "snippet"] json with
  | [ruleId, file, line, message, snippet] =>
    some {
      ruleId := ← Json.required Json.string? ruleId
      file := ← Json.required Json.string? file
      line := ← Json.required Json.nat? line
      message := ← Json.required Json.string? message
      snippet := ← Json.orElse none (Json.nullable? Json.string?) snippet }
  | _ => none

end Violation

end QualityGate
