import QualityGate.Rule.Check

/-!
# Fixing violations

A fix rewrites the matches of a rule with a replacement, in the rule's region, on the lines that
were reported.  Planning is pure; it yields new texts and writes nothing.

Edits are given in bytes of the original text.  One that begins or ends inside a character is left
out.  The others are applied from left to right, and one that begins inside an earlier one is left
out, too, so the edits that are applied are disjoint.
-/

namespace QualityGate

open QualityGate.Text (Bytes)

/-- The new text of a file. -/
structure FileFix where
  path : String
  updated : String
  /-- The number of replacements. -/
  replacements : Nat
  deriving DecidableEq, Repr

/-- The fix as a record, without the text. -/
def FileFix.toJson (fix : FileFix) : Json :=
  .obj [("path", .str fix.path), ("replacements", .nat fix.replacements)]

/-- A replacement of the bytes from `start` to `stop`. -/
structure Edit where
  start : Nat
  stop : Nat
  text : List Char
  deriving DecidableEq, Repr

namespace Edit

/-- Whether an edit may stand before another. -/
def before (a b : Edit) : Bool :=
  ((compare a.start b.start).then (compare a.stop b.stop)).isLE

/-- Whether an edit begins and ends between characters. -/
def fits (bytes : Bytes) (edit : Edit) : Bool :=
  edit.start ≤ edit.stop && Text.Utf8.isBoundary bytes edit.start
    && Text.Utf8.isBoundary bytes edit.stop

/-- The bytes from `cursor` on with the edits made, and how many were.  There is no answer when a
character would have to be cut. -/
def splice? (bytes : Bytes) : Nat → List Edit → Option (Bytes × Nat)
  | cursor, [] => (Text.Utf8.slice? bytes cursor bytes.length).map (·, 0)
  | cursor, edit :: edits =>
    if edit.start < cursor then splice? bytes cursor edits
    else do
      let kept ← Text.Utf8.slice? bytes cursor edit.start
      let (rest, count) ← splice? bytes edit.stop edits
      some (kept ++ (Text.Utf8.encode edit.text ++ rest), count + 1)

/-- The text with the edits made, unless nothing changes. -/
def applied? (bytes : Bytes) (edits : List Edit) : Option (Bytes × Nat) := do
  let (updated, count) ← splice? bytes 0 ((edits.filter (fits bytes)).mergeSort before)
  if 0 < count ∧ updated ≠ bytes then some (updated, count) else none

end Edit

namespace Fix

/-- The first and the last offset of every line, when the first line begins at `offset`. -/
def lineSpans (offset : Nat) : List Bytes → List (Nat × Nat)
  | [] => []
  | line :: lines => (offset, offset + line.length) :: lineSpans (offset + line.length + 1) lines

/-- The edits that a rule makes in a piece of a file. -/
def editsIn (rule : PatternRule) (replacement : String) (file : SourceFile) (span : Nat × Nat) :
    List Edit :=
  (file.scanned.runs rule.region span.1 span.2).flatMap fun run =>
    ((rule.matcher.findAll run.text).filter fun m => ! m.matched.isEmpty).map fun m =>
      { start := run.offset + m.byteOffset m.whole.start
        stop := run.offset + m.byteOffset m.whole.stop
        text := rule.matcher.replacement replacement m }

/-- A rule and a line of a file that was reported for it. -/
abbrev Target := String × Nat

/-- Whether a target may stand before another. -/
def Target.before (a b : Target) : Bool :=
  ((compare a.1 b.1).then (compare a.2 b.2)).isLE

/-- The targets in a file, each once and in order. -/
def targets (violations : List Violation) (path : String) : List Target :=
  (((violations.filter fun v => Path.same v.file path).map fun v =>
    (v.ruleId, v.line)).eraseDups).mergeSort Target.before

/-- The edits for a target; there are none when the rule has no replacement. -/
def editsFor (rules : RuleSet) (file : SourceFile) (spans : List (Nat × Nat)) (target : Target) :
    List Edit :=
  (do
    let rule ← rules.pattern? target.1
    let replacement ← rule.replacement
    let span ← if target.2 = 0 then none else spans[target.2 - 1]?
    some (editsIn rule replacement file span)).getD []

/-- The fix of a file, if there is anything to rewrite. -/
def ofFile? (rules : RuleSet) (violations : List Violation) (file : SourceFile) :
    Option FileFix := do
  let bytes := Text.Utf8.encode file.text
  let spans := lineSpans 0 (Text.splitOn Source.newline bytes)
  let edits := (targets violations file.path).flatMap (editsFor rules file spans)
  let (updated, count) ← Edit.applied? bytes edits
  some ⟨file.path, Text.stringLossy updated, count⟩

/-- The fixes of all files. -/
def plan (files : List SourceFile) (violations : List Violation) (rules : RuleSet) :
    List FileFix :=
  files.filterMap (ofFile? rules violations)

end Fix

end QualityGate
