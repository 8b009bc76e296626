import QualityGate.Proofs.Rule.Planning
import QualityGate.Proofs.Source.Hidden

/-!
# What code rules do not see

A rule for code looks at the runs of code, line by line, and at nothing else of a file.  So what a
literal or comment says has no influence on it: a literal or comment may be exchanged for another
one with as many line breaks, and no rule notices.

* `PatternRule.scanFile_eq`, `ClaimRule.claimsOf_eq` – the violations and the claims of a file are
  functions of the texts of its runs.
* `Matcher.FindsInCode` – the places of a file that a matcher finds in its code.
* `unseen_in_code` – the exchange, for every rule, and no match reaches into what is exchanged.

### What is load-bearing

Offsets are not among the things that a rule looks at, so it does not matter that the exchange moves
everything that comes later (`lineTexts`).
-/

namespace QualityGate

open QualityGate.Source
open QualityGate.Text

/-! ### Rules look at texts of runs -/

/-- What is collected from the members that pass a test does not change when one of them is
exchanged for another with which it is the same. -/
theorem flatMap_filter_congr {α β : Type} {test : α → Bool} {collect : α → List β} {a b : α}
    (kept : test a = test b) (same : collect a = collect b) (earlier later : List α) :
    ((earlier ++ a :: later).filter test).flatMap collect =
      ((earlier ++ b :: later).filter test).flatMap collect := by
  rw [List.filter_append, List.filter_append, List.filter_cons, List.filter_cons, kept]
  split
  · simp only [List.flatMap_append, List.flatMap_cons, same]
  · rfl

namespace PatternRule

/-- The match that a line is reported for when the texts of its runs are these. -/
def textsMatch? (rule : PatternRule) (texts : List (List Char)) : Option Regex.Match :=
  if rule.exempt.any fun exempt => texts.any exempt.isMatch then none
  else texts.findSome? rule.matcher.find?

theorem lineMatch?_eq (rule : PatternRule) (runs : List Run) :
    rule.lineMatch? runs = rule.textsMatch? (runs.map (·.text)) := by
  unfold lineMatch? isExempt textsMatch?
  simp only [List.any_map, List.findSome?_map, Function.comp_def]

/-- The violations of a file follow from the texts of its runs. -/
theorem scanFile_eq (rule : PatternRule) (file : SourceFile) :
    rule.scanFile file =
      ((lineTexts rule.region file.scanned.cells).zipIdx 1).filterMap fun (texts, line) =>
        (rule.textsMatch? texts).map fun m =>
          { Violation.onLine rule.id file.path line rule.message with
            snippet := some (String.ofList m.matched) } := by
  rw [scanFile, ← map_text_lineRuns, List.zipIdx_map, List.filterMap_map]
  simp only [lineMatch?_eq, Function.comp_def, Prod.map, id_eq]

/-- Texts with the same texts of runs may be exchanged. -/
theorem run_congr {rule : PatternRule} {text text' : List Char}
    (same : lineTexts rule.region (scan text).cells = lineTexts rule.region (scan text').cells)
    (path : String) (earlier later : List SourceFile) :
    rule.run (earlier ++ .of path text :: later) =
      rule.run (earlier ++ .of path text' :: later) := by
  have scanned : rule.scanFile (.of path text) = rule.scanFile (.of path text') := by
    rw [scanFile_eq, scanFile_eq, SourceFile.of, SourceFile.of, same]
  exact flatMap_filter_congr (by rfl) scanned earlier later

end PatternRule

namespace ClaimRule

/-- The claims of a file follow from the texts of its runs. -/
theorem claimsOf_eq (rule : ClaimRule) (file : SourceFile) :
    rule.claimsOf file =
      ((lineTexts rule.region file.scanned.cells).zipIdx 1).flatMap fun (texts, line) =>
        texts.flatMap fun text =>
          (rule.matcher.findAll text).filterMap (claim? file.path line) := by
  rw [claimsOf, ← map_text_lineRuns, List.zipIdx_map, List.flatMap_map]
  simp only [List.flatMap_map, Prod.map, id_eq]

/-- Texts with the same texts of runs may be exchanged. -/
theorem claims_congr {rule : ClaimRule} {text text' : List Char}
    (same : lineTexts rule.region (scan text).cells = lineTexts rule.region (scan text').cells)
    (path : String) (earlier later : List SourceFile) :
    rule.claims (earlier ++ .of path text :: later) =
      rule.claims (earlier ++ .of path text' :: later) := by
  have claimed : rule.claimsOf (.of path text) = rule.claimsOf (.of path text') := by
    rw [claimsOf_eq, claimsOf_eq, SourceFile.of, SourceFile.of, same]
  exact flatMap_filter_congr (by rfl) claimed earlier later

end ClaimRule

/-! ### Matches in code -/

/-- The bytes of a text between two offsets are what a matcher finds in a run of code: the first
match, for which a line is reported, or any of the matches, each of which may be a claim. -/
inductive Matcher.FindsInCode (matcher : Matcher) (text : List Char) : Nat → Nat → Prop where
  | first {runs : List Run} {run : Run} {m : Regex.Match}
      (line : runs ∈ (scan text).lineRuns .code) (onLine : run ∈ runs)
      (found : matcher.find? run.text = some m) :
    FindsInCode matcher text (run.offset + m.byteOffset m.whole.start)
      (run.offset + m.byteOffset m.whole.stop)
  | any {runs : List Run} {run : Run} {m : Regex.Match}
      (line : runs ∈ (scan text).lineRuns .code) (onLine : run ∈ runs)
      (found : m ∈ matcher.findAll run.text) :
    FindsInCode matcher text (run.offset + m.byteOffset m.whole.start)
      (run.offset + m.byteOffset m.whole.stop)

theorem Regex.Match.byteOffset_le (m : Regex.Match) (position : Nat) :
    m.byteOffset position ≤ (Utf8.encode m.text).length := by
  have whole := congrArg (fun text => (Utf8.encode text).length)
    (List.take_append_drop position m.text)
  simp only [Utf8.encode_append, List.length_append] at whole
  rw [byteOffset]
  omega

/-- A match lies within a run. -/
theorem Matcher.FindsInCode.exists_run {matcher : Matcher} {text : List Char} {start stop : Nat}
    (finds : matcher.FindsInCode text start stop) :
    ∃ run ∈ runsOf .code 0 (scan text).cells,
      run.offset ≤ start ∧ stop ≤ run.offset + (Utf8.encode run.text).length := by
  cases finds with
  | @first runs run m line onLine found =>
    have bound := m.byteOffset_le m.whole.stop
    rw [text_of_search found] at bound
    exact ⟨run, Scanned.mem_runsOf_of_mem_lineRuns line onLine, by omega, by omega⟩
  | @any runs run m line onLine found =>
    have bound := m.byteOffset_le m.whole.stop
    rw [text_of_mem_findAll found] at bound
    exact ⟨run, Scanned.mem_runsOf_of_mem_lineRuns line onLine, by omega, by omega⟩

/-! ### The exchange -/

section Exchange

variable {before token token' after : List Char} {form form' : Form}

/-- The cells of a text with a literal or comment in the middle. -/
theorem cells_scan_splice (code : modeAfter .normal (Utf8.encode before) = .normal)
    (closed : Closed form (Utf8.encode token))
    (slashes : form = .blockComment → before.getLast? ≠ some '/') (after : List Char) :
    (scan (before ++ (token ++ after))).cells =
      (scan before).cells ++ ((Utf8.encode token).map (·, form.kind) ++ (scan after).cells) := by
  rw [scan, Utf8.encode_append, Utf8.encode_append]
  refine cells_splice code closed fun comment last => slashes comment ?_
  exact Utf8.getLast?_of_getLast?_encode (by decide) last

/-- None of its cells can be in a run of code. -/
theorem Source.Closed.hidden (closed : Closed form (Utf8.encode token)) :
    ∀ cell ∈ (Utf8.encode token).map (·, form.kind), inRun .code cell = false := by
  intro cell mem
  obtain ⟨byte, -, rfl⟩ := List.mem_map.mp mem
  have other : form.kind ≠ Region.code.kind := closed.kind_ne_code
  simp [inRun, other]

/-- What rules look at in code does not change with a literal or comment. -/
theorem lineTexts_scan_splice (code : modeAfter .normal (Utf8.encode before) = .normal)
    (closed : Closed form (Utf8.encode token)) (closed' : Closed form' (Utf8.encode token'))
    (lines : token.count '\n' = token'.count '\n')
    (slashes : form = .blockComment ∨ form' = .blockComment → before.getLast? ≠ some '/')
    (after : List Char) :
    lineTexts .code (scan (before ++ (token ++ after))).cells =
      lineTexts .code (scan (before ++ (token' ++ after))).cells := by
  have breaks (token : List Char) (kind : Kind) :
      (((Utf8.encode token).map (·, kind)).map (·.1)).count newline = token.count '\n' := by
    rw [List.map_map, ← Utf8.count_encode (by decide)]
    exact congrArg (List.count newline) (List.map_id _)
  rw [cells_scan_splice code closed (slashes ∘ Or.inl),
    cells_scan_splice code closed' (slashes ∘ Or.inr)]
  refine lineTexts_append_hidden ?_ ?_ closed.hidden closed'.hidden ?_ _ _
  · exact mt List.map_eq_nil_iff.mp closed.ne_nil
  · exact mt List.map_eq_nil_iff.mp closed'.ne_nil
  · rw [breaks, breaks, lines]

/-- **What code rules do not see.**  Behind a text after which the pass stands in code, a closed
literal or block comment may be exchanged for another one with as many line breaks: every rule for
code reports the same violations and collects the same claims, whatever the other files are.  And
no match in code reaches into the literal or comment, or across it. -/
theorem unseen_in_code (code : modeAfter .normal (Utf8.encode before) = .normal)
    (closed : Closed form (Utf8.encode token)) (closed' : Closed form' (Utf8.encode token'))
    (lines : token.count '\n' = token'.count '\n')
    (slashes : form = .blockComment ∨ form' = .blockComment → before.getLast? ≠ some '/')
    (after : List Char) :
    (∀ rule : PatternRule, rule.region = .code → ∀ path earlier later,
      rule.run (earlier ++ .of path (before ++ (token ++ after)) :: later) =
        rule.run (earlier ++ .of path (before ++ (token' ++ after)) :: later)) ∧
    (∀ rule : ClaimRule, rule.region = .code → ∀ path earlier later,
      rule.claims (earlier ++ .of path (before ++ (token ++ after)) :: later) =
        rule.claims (earlier ++ .of path (before ++ (token' ++ after)) :: later)) ∧
    (∀ (matcher : Matcher) (start stop : Nat),
      matcher.FindsInCode (before ++ (token ++ after)) start stop →
        stop ≤ (Utf8.encode before).length ∨ (Utf8.encode (before ++ token)).length ≤ start) := by
  have same := lineTexts_scan_splice code closed closed' lines slashes after
  refine ⟨fun rule inCode path earlier later => ?_, fun rule inCode path earlier later => ?_,
    fun matcher start stop finds => ?_⟩
  · exact PatternRule.run_congr (by rw [inCode, same]) path earlier later
  · exact ClaimRule.claims_congr (by rw [inCode, same]) path earlier later
  · obtain ⟨run, mem, first, last⟩ := finds.exists_run
    rw [cells_scan_splice code closed (slashes ∘ Or.inl)] at mem
    have some : (Utf8.encode token).map (·, form.kind) ≠ [] :=
      mt List.map_eq_nil_iff.mp closed.ne_nil
    have apart := le_or_le_of_mem_runsOf some closed.hidden mem
    have length : (scan before).cells.length = (Utf8.encode before).length := length_cells _
    rw [List.length_map, length] at apart
    rw [Utf8.encode_append, List.length_append]
    omega

end Exchange

/-- A word in a string, and a quote in a comment. -/
theorem unseen_in_code_todo :
    (∀ rule : PatternRule, rule.region = .code →
      rule.run [.of "a.ts" ("let a = ".toList ++ ("'TODO\\''".toList ++ ";".toList))] =
        rule.run [.of "a.ts" ("let a = ".toList ++ ("/* ' */".toList ++ ";".toList))]) ∧
    ∀ (matcher : Matcher) (start stop : Nat),
      matcher.FindsInCode ("let a = ".toList ++ ("'TODO\\''".toList ++ ";".toList)) start stop →
        stop ≤ 8 ∨ 16 ≤ start := by
  have word : Closed .string (Utf8.encode "'TODO\\''".toList) := by
    have bytes : Utf8.encode "'TODO\\''".toList =
        0x27 :: ([0x54, 0x4F, 0x44, 0x4F, backslash, 0x27] ++ [0x27]) := by decide +kernel
    have inner : Inner 0x27 [0x54, 0x4F, 0x44, 0x4F, backslash, 0x27] :=
      .plain (by decide) (by decide) (.plain (by decide) (by decide) (.plain (by decide) (by decide)
        (.plain (by decide) (by decide) (.escaped .nil))))
    rw [bytes]
    exact .literal (by decide) inner
  have comment : Closed .blockComment (Utf8.encode "/* ' */".toList) := by
    have bytes : Utf8.encode "/* ' */".toList =
        slash :: star :: ([0x20, 0x27, 0x20] ++ close) := by decide +kernel
    rw [bytes]
    exact .blockComment (by decide)
  have code : modeAfter .normal (Utf8.encode "let a = ".toList) = .normal := by decide +kernel
  have unseen := unseen_in_code code word comment (by decide +kernel) (fun _ => by decide +kernel)
    ";".toList
  refine ⟨fun rule inCode => unseen.1 rule inCode "a.ts" [] [], fun matcher start stop finds => ?_⟩
  have lengths : (Utf8.encode "let a = ".toList).length = 8 ∧
      (Utf8.encode ("let a = ".toList ++ "'TODO\\''".toList)).length = 16 := by decide +kernel
  have apart := unseen.2.2 matcher start stop finds
  rwa [lengths.1, lengths.2] at apart

end QualityGate
