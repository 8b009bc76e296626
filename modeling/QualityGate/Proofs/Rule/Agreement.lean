import QualityGate.Proofs.Rule.Narrowing
import QualityGate.Proofs.Source.Lines

/-!
# Scanning and fixing agree

A scan cuts a classified file into lines and looks at the runs of each line.  Fixing computes the
ends of the lines from the text and asks for the runs between them.  Both find the same runs
(`lineRuns_eq`).

* `Edit.Covers` – an edit stands for a piece of a text on a line.
* `plan_agrees` – the first edit for a reported line stands for the text that was reported.
-/

namespace QualityGate

open QualityGate.Source QualityGate.Text

/-! ### First matches -/

namespace Matcher

variable {matcher : Matcher} {text : List Char}

theorem findAll_of_find?_eq_none (none : matcher.find? text = none) :
    matcher.findAll text = [] := by
  have nothing : matcher.search text (.start text) = Option.none := none
  rw [findAll, Regex.allMatches, Regex.matchesFrom, nothing]
  rfl

/-- The first of all matches is the one that is found. -/
theorem exists_findAll_eq_cons {m : Regex.Match} (found : matcher.find? text = some m) :
    ∃ later, matcher.findAll text = m :: later := by
  have first : matcher.search text (.start text) = some m := found
  rw [findAll, Regex.allMatches, Regex.matchesFrom, first]
  -- There is no earlier match at whose end this one could lie.
  simp only [Option.bind_eq_bind, Option.bind_some, reduceCtorEq, and_false, if_false]
  exact ⟨_, rfl⟩

end Matcher

/-! ### The edits for a line -/

/-- An edit stands for a piece of a text that lies on a line; lines count from one. -/
def Edit.Covers (edit : Edit) (text : List Char) (line : Nat) (piece : List Char) : Prop :=
  ∃ before after, text = before ++ (piece ++ after) ∧
    edit.start = (Utf8.encode before).length ∧
    edit.stop = (Utf8.encode (before ++ piece)).length ∧
    line = before.count '\n' + 1 ∧ '\n' ∉ piece

namespace Fix

/-- The edit that replaces a match in a run. -/
def editOf (rule : PatternRule) (template : String) (run : Run) (m : Regex.Match) : Edit where
  start := run.offset + m.byteOffset m.whole.start
  stop := run.offset + m.byteOffset m.whole.stop
  text := rule.matcher.replacement template m

/-- The edits that replace the matches in a run. -/
def editsOf (rule : PatternRule) (template : String) (run : Run) : List Edit :=
  ((rule.matcher.findAll run.text).filter fun m => ! m.matched.isEmpty).map
    (editOf rule template run)

variable {rules : RuleSet} {rule : PatternRule} {template path id : String} {text : List Char}
  {line : Nat}

/-- The edits for a line are made in the runs that a scan looks at, from left to right. -/
theorem editsFor_eq (known : rules.pattern? id = some rule)
    (rewrites : rule.replacement = some template) (path : String) (text : List Char) (line : Nat) :
    editsFor rules (.of path text) (lineSpans 0 (splitOn newline (Utf8.encode text))) (id, line) =
      ((SourceFile.of path text).runsOn rule.region line).flatMap (editsOf rule template) := by
  rw [editsFor, known]
  cases line with
  | zero => simp [SourceFile.runsOn]
  | succ index =>
    have runs : (SourceFile.of path text).scanned.lineRuns rule.region = _ :=
      lineRuns_eq rule.region text
    rw [SourceFile.runsOn, runs, List.getD_eq_getElem?_getD, List.getElem?_map]
    cases found : (lineSpans 0 (splitOn newline (Utf8.encode text)))[index]? with
    | none => simp [found]
    | some span =>
      have inSpan : editsIn rule template (.of path text) span =
          ((scan text).runs rule.region span.1 span.2).flatMap (editsOf rule template) := rfl
      simp [rewrites, found, inSpan]

/-- Where a line is reported for a match, the edit that replaces it comes first. -/
theorem exists_editsFor_eq_cons (known : rules.pattern? id = some rule)
    (rewrites : rule.replacement = some template) {m : Regex.Match}
    (found : rule.lineMatch? ((SourceFile.of path text).runsOn rule.region line) = some m)
    (nonempty : m.matched ≠ []) :
    ∃ run ∈ (SourceFile.of path text).runsOn rule.region line, m.text = run.text ∧ ∃ later,
      editsFor rules (.of path text) (lineSpans 0 (splitOn newline (Utf8.encode text))) (id, line) =
        editOf rule template run m :: later := by
  obtain ⟨earlier, run, later, split, here, before⟩ : ∃ earlier run later,
      (SourceFile.of path text).runsOn rule.region line = earlier ++ run :: later ∧
        rule.matcher.find? run.text = some m ∧
        ∀ other ∈ earlier, rule.matcher.find? other.text = none := by
    rw [PatternRule.lineMatch?] at found
    split at found
    · cases found
    · exact List.findSome?_eq_some_iff.mp found
  -- Nothing is found in the runs before this one, so they have no edits.
  have nothing : earlier.flatMap (editsOf rule template) = [] := by
    rw [List.flatMap_eq_nil_iff]
    intro other mem
    rw [editsOf, Matcher.findAll_of_find?_eq_none (before other mem)]
    rfl
  obtain ⟨others, all⟩ := Matcher.exists_findAll_eq_cons here
  have first : ∃ more, editsOf rule template run = editOf rule template run m :: more := by
    rw [editsOf, all, List.filter_cons_of_pos (by simpa using nonempty), List.map_cons]
    exact ⟨_, rfl⟩
  obtain ⟨more, first⟩ := first
  refine ⟨run, split ▸ List.mem_append_right _ List.mem_cons_self, Matcher.text_of_search here,
    more ++ later.flatMap (editsOf rule template), ?_⟩
  rw [editsFor_eq known rewrites, split, List.flatMap_append, nothing, List.nil_append,
    List.flatMap_cons, first, List.cons_append]

/-- The runs on a line are the runs of the text that begin on it. -/
theorem mem_runsOn_iff {region : Region} {run : Run} :
    run ∈ (SourceFile.of path text).runsOn region line ↔
      run ∈ runsOf region 0 (scan text).cells ∧ lineOf text run.offset = line := by
  cases line with
  | zero => simp [SourceFile.runsOn, lineOf]
  | succ index =>
    have runs : (SourceFile.of path text).scanned.lineRuns region = _ := lineRuns_eq region text
    rw [← mem_runs_lineSpans_iff, SourceFile.runsOn, runs, List.getD_eq_getElem?_getD,
      List.getElem?_map]
    cases (lineSpans 0 (splitOn newline (Utf8.encode text)))[index]? with
    | none => simp
    | some span => simp

/-- The line of a place in a text is one more than the line breaks before it. -/
theorem lineOf_length_encode (before after : List Char) :
    lineOf (before ++ after) (Utf8.encode before).length = before.count '\n' + 1 := by
  rw [lineOf, Utf8.encode_append, List.take_left, ← Utf8.count_encode (d := '\n') (by decide)]
  rfl

/-- The edit that replaces a match in a run on a line covers the match. -/
theorem covers_editOf {run : Run} {m : Regex.Match}
    (mem : run ∈ (SourceFile.of path text).runsOn rule.region line) (same : m.text = run.text)
    (nonempty : m.matched ≠ []) : (editOf rule template run m).Covers text line m.matched := by
  obtain ⟨inRegion, onLine⟩ := mem_runsOn_iff.mp mem
  have inside :
      run.text = m.text.take m.whole.start ++ (m.matched ++ m.text.drop m.whole.stop) := by
    rw [← List.append_assoc, ← Regex.Match.take_stop nonempty, List.take_append_drop, same]
  obtain ⟨⟨front, back, split, offset⟩, -⟩ := exists_append_of_mem_runs inRegion
  have whole : text = (front ++ m.text.take m.whole.start) ++
      (m.matched ++ (m.text.drop m.whole.stop ++ back)) := by
    rw [split, inside]
    simp only [List.append_assoc]
  have starts : (editOf rule template run m).start =
      (Utf8.encode (front ++ m.text.take m.whole.start)).length := by
    rw [Utf8.encode_append, List.length_append, ← offset]
    rfl
  refine ⟨front ++ m.text.take m.whole.start, _, whole, starts, ?_, ?_, ?_⟩
  · rw [List.append_assoc, ← Regex.Match.take_stop nonempty, Utf8.encode_append, List.length_append,
      ← offset]
    rfl
  · -- A match is on the line on which its run begins.
    have here : lineOf text (editOf rule template run m).start = line :=
      (lineOf_add_of_mem_runs inRegion inside).trans onLine
    rw [starts, whole, lineOf_length_encode] at here
    exact here.symm
  · have free := newline_notMem_of_mem_runsOf inRegion
    rw [inside, Utf8.encode_append, Utf8.encode_append, List.mem_append, List.mem_append, not_or,
      not_or] at free
    rw [← List.count_eq_zero, ← Utf8.count_encode (d := '\n') (by decide)]
    exact List.count_eq_zero.mpr free.2.1

/-! ### Plans -/

/-- A violation of a pattern rule is that of the match that a line was reported for. -/
theorem exists_match_of_mem_run (ids : (rules.rules.map Rule.id).Nodup) {files : List SourceFile}
    {v : Violation} (listed : Rule.pattern rule ∈ rules.rules) (named : v.ruleId = rule.id)
    (reported : v ∈ rules.run files) :
    ∃ file ∈ files, ∃ line m, rule.lineMatch? (file.runsOn rule.region line) = some m ∧
      v = rule.violation file.path line m := by
  rw [RuleSet.run, Violation.sort, List.mem_mergeSort, List.mem_flatMap] at reported
  obtain ⟨other, known, found⟩ := reported
  have same : (Rule.pattern rule).id = other.id := named.symm.trans (Rule.ruleId_of_mem_run found)
  obtain rfl := List.inj_on_of_nodup_map ids listed known same
  obtain ⟨file, looked, inFile⟩ := List.mem_flatMap.mp found
  exact ⟨file, List.mem_of_mem_filter looked, PatternRule.mem_scanFile_iff.mp inFile⟩

/-- **Scan and fix agree on where a violation is.**  When a rule with a replacement reports a line
for a text that is not empty, then of the edits for this rule and line, the first covers this text
on this line.  It is applied, or overlaps one that is applied, and the fix of the file is what the
applied edits make of it, unless they change nothing. -/
theorem plan_agrees (ids : (rules.rules.map Rule.id).Nodup) {sources : List (String × List Char)}
    (paths : DistinctPaths (sources.map fun source => .of source.1 source.2))
    {violations : List Violation} {v : Violation} (listed : Rule.pattern rule ∈ rules.rules)
    (rewrites : rule.replacement = some template) (named : v.ruleId = rule.id)
    (reported : v ∈ rules.run (sources.map fun source => .of source.1 source.2))
    (asked : v ∈ violations) {snippet : String} (shown : v.snippet = some snippet)
    (nonempty : snippet ≠ "") :
    ∃ text, (v.file, text) ∈ sources ∧
      (∀ source ∈ sources, Path.same v.file source.1 = true → source = (v.file, text)) ∧
      (v.ruleId, v.line) ∈ targets violations v.file ∧
      ∃ edit later, editsFor rules (.of v.file text)
          (lineSpans 0 (splitOn newline (Utf8.encode text))) (v.ruleId, v.line) = edit :: later ∧
        edit.Covers text v.line snippet.toList ∧
        ∃ made updated, Rewrites rules violations v.file text made updated ∧
          (edit ∈ made ∨ ∃ applied ∈ made, applied.Overlaps edit) ∧
          (updated = text ∨ ⟨v.file, String.ofList updated, made.length⟩ ∈
            plan (sources.map fun source => .of source.1 source.2) violations rules) := by
  obtain ⟨file, inFiles, line, m, found, rfl⟩ := exists_match_of_mem_run ids listed named reported
  obtain ⟨⟨path, text⟩, known, rfl⟩ := List.mem_map.mp inFiles
  obtain rfl : String.ofList m.matched = snippet := Option.some.inj shown
  have matched : m.matched ≠ [] := by
    intro nothing
    rw [nothing] at nonempty
    exact nonempty rfl
  have byId := (pattern?_eq_some_iff ids).mpr ⟨listed, named.symm⟩
  have target : (rule.id, line) ∈ targets violations path :=
    mem_targets_iff.mpr ⟨_, asked, beq_self_eq_true _, rfl, rfl⟩
  obtain ⟨run, onLine, same, later, edits⟩ := exists_editsFor_eq_cons byId rewrites found matched
  have candidate : Candidate rules violations path text (editOf rule template run m) := by
    refine (mem_flatMap_editsFor_iff ids violations path text _).mp ?_
    exact List.mem_flatMap.mpr ⟨_, target, edits ▸ List.mem_cons_self⟩
  have answer : Planned rules violations (path, text) _ := ofFile?_planned ids (path, text)
  obtain ⟨made, updated, rewritten, nothing, planned⟩ := answer
  refine ⟨text, known, ?_, target, _, later, edits, ?_, made, updated, rewritten, ?_, ?_⟩
  · intro source mem samePath
    have keys := paths.nodup_keys
    rw [List.map_map] at keys
    exact List.inj_on_of_nodup_map keys mem known (eq_of_beq samePath).symm
  · rw [String.toList_ofList]
    exact covers_editOf onLine same matched
  · exact (rewritten.maximal _ candidate).imp_right fun ⟨applied, among, _, overlaps⟩ =>
      ⟨applied, among, overlaps⟩
  · cases fix : ofFile? rules violations (SourceFile.of path text) with
    | none =>
      rcases nothing.mp fix with never | unchanged
      · exact absurd candidate (never _)
      · exact Or.inl unchanged
    | some fix' =>
      refine Or.inr (List.mem_filterMap.mpr ⟨_, inFiles, fix.trans ?_⟩)
      exact congrArg some (planned fix' fix)

/-- A text whose second line begins within a literal and ends without a line break. -/
def castText : List Char := "é(\x60any\nany\x60); f(é as any, any)".toList

/-- What is reported of the second line. -/
def castViolation : Violation := ⟨"cast", "a.ts", 2, "no casts", some "any"⟩

/-- The first edit for the second line covers the first cast behind the literal. -/
theorem plan_agrees_casts :
    castViolation ∈ castRules.run [.of "a.ts" castText] ∧
      editsFor castRules (.of "a.ts" castText)
          (lineSpans 0 (splitOn newline (Utf8.encode castText))) ("cast", 2) =
        [⟨23, 26, "unknown".toList⟩, ⟨28, 31, "unknown".toList⟩] ∧
      Edit.Covers ⟨23, 26, "unknown".toList⟩ castText 2 "any".toList := by
  have reported : castViolation ∈ castRules.run [.of "a.ts" castText] := by decide +kernel
  have both : editsFor castRules (.of "a.ts" castText)
      (lineSpans 0 (splitOn newline (Utf8.encode castText))) ("cast", 2) =
        [⟨23, 26, "unknown".toList⟩, ⟨28, 31, "unknown".toList⟩] := by decide +kernel
  have one : [SourceFile.of "a.ts" castText] =
      [("a.ts", castText)].map fun source => .of source.1 source.2 := rfl
  have paths : DistinctPaths [.of "a.ts" castText] := List.nodup_singleton _
  rw [one] at reported paths
  obtain ⟨text, known, -, -, edit, later, edits, covers, -⟩ :=
    plan_agrees (by decide) paths List.mem_cons_self rfl rfl reported
      (List.mem_singleton_self castViolation) rfl (by decide)
  obtain ⟨-, rfl⟩ := Prod.mk.inj (List.mem_singleton.mp known)
  obtain ⟨rfl, -⟩ := List.cons.inj (both.symm.trans edits)
  exact ⟨reported, both, covers⟩

end Fix

end QualityGate
