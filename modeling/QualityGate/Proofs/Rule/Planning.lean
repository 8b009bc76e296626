import Mathlib.Data.List.Nodup
import QualityGate.Proofs.Rule.Splice
import QualityGate.Proofs.Source.Runs

/-!
# Planning fixes

The edits of a file are its candidates: the matches of the rules with a replacement, in the runs of
their region, on the lines that were reported (`mem_flatMap_editsFor_iff`).  Planning makes as many
of them as can be made together, and leaves everything else as it is (`Rewrites`).

### What is load-bearing

A run is a piece of its text, and a match is a piece of its run, so a candidate stands for a piece of
the text (`Candidate.replaces`).  No edit can therefore be lost because it cuts a character.
-/

namespace QualityGate

open QualityGate.Source QualityGate.Text

/-! ### Matches -/

namespace Regex

variable {search : Place → Option Match} {holds : Match → Prop}

/-- What holds of every match that a search finds holds of all matches. -/
theorem forall_mem_matchesFrom (found : ∀ {place m}, search place = some m → holds m) :
    ∀ (fuel : Nat) (place : Place) (lastStop : Option Nat),
      ∀ m ∈ matchesFrom search fuel place lastStop, holds m := by
  intro fuel
  induction fuel with
  | zero => intro place lastStop m mem; cases mem
  | succ fuel ih =>
    intro place lastStop m mem
    rw [matchesFrom] at mem
    split at mem
    · cases mem
    · next first searched =>
      rcases List.mem_cons.mp mem with rfl | later
      · obtain ⟨candidate, here, chosen⟩ := Option.bind_eq_some_iff.mp searched
        split at chosen
        · obtain ⟨next, -, there⟩ := Option.bind_eq_some_iff.mp chosen
          exact found there
        · cases chosen
          exact found here
      · exact ih _ _ m later

namespace Match

variable {m : Match}

theorem start_lt_of_matched_ne_nil (nonempty : m.matched ≠ []) :
    m.whole.start < (m.text.take m.whole.stop).length :=
  List.drop_eq_nil_iff.not.mp nonempty |> Nat.not_le.mp

theorem length_take_start (nonempty : m.matched ≠ []) :
    (m.text.take m.whole.start).length = m.whole.start := by
  have inside := start_lt_of_matched_ne_nil nonempty
  rw [List.length_take] at inside ⊢
  omega

/-- The text up to the end of a match is what is before the match and the match. -/
theorem take_stop (nonempty : m.matched ≠ []) :
    m.text.take m.whole.stop = m.text.take m.whole.start ++ m.matched := by
  have inside := start_lt_of_matched_ne_nil nonempty
  rw [List.length_take] at inside
  have first : m.text.take m.whole.start = (m.text.take m.whole.stop).take m.whole.start := by
    rw [List.take_take, Nat.min_eq_left (by omega)]
  rw [first, matched, slice, List.take_append_drop]

end Match

end Regex

namespace Matcher

open QualityGate.Regex (Place Match)

theorem text_of_searchTerms {wholeWord : Bool} {terms : List (List Char)} {text : List Char}
    {fuel : Nat} {place : Place} {m : Match}
    (found : searchTerms wholeWord terms text fuel place = some m) : m.text = text := by
  induction fuel generalizing place with
  | zero => cases found
  | succ fuel ih =>
    rw [searchTerms] at found
    split at found
    · cases found
      rfl
    · obtain ⟨next, -, later⟩ := Option.bind_eq_some_iff.mp found
      exact ih later

/-- A match refers to the text that was searched. -/
theorem text_of_search {matcher : Matcher} {text : List Char} {place : Place} {m : Match}
    (found : matcher.search text place = some m) : m.text = text := by
  cases matcher with
  | terms wholeWord list => exact text_of_searchTerms found
  | regex compiled =>
    obtain ⟨slots, -, rfl⟩ := Option.map_eq_some_iff.mp found
    rfl

theorem text_of_mem_findAll {matcher : Matcher} {text : List Char} {m : Match}
    (mem : m ∈ matcher.findAll text) : m.text = text :=
  Regex.forall_mem_matchesFrom text_of_search _ _ _ m mem

end Matcher

namespace Fix

/-! ### Candidates -/

/-- An edit that the violations ask for: a match of a rule with a replacement, which is not empty,
lies in a run of the rule's region, and is on a line that was reported for the rule and the file. -/
inductive Candidate (rules : RuleSet) (violations : List Violation) (path : String)
    (text : List Char) : Edit → Prop
  | of_match {rule : PatternRule} {template : String} {violation : Violation} {run : Run}
      {m : Regex.Match} {before after : List Char}
      (listed : Rule.pattern rule ∈ rules.rules) (rewrites : rule.replacement = some template)
      (reported : violation ∈ violations) (here : Path.same violation.file path = true)
      (named : violation.ruleId = rule.id)
      (inRegion : run ∈ runsOf rule.region 0 (scan text).cells)
      (found : m ∈ rule.matcher.findAll run.text) (nonempty : m.matched ≠ [])
      (place : before.length = m.whole.start)
      (inside : run.text = before ++ (m.matched ++ after))
      (line : violation.line = lineOf text (run.offset + (Utf8.encode before).length)) :
      Candidate rules violations path text
        { start := run.offset + (Utf8.encode before).length
          stop := run.offset + (Utf8.encode (before ++ m.matched)).length
          text := rule.matcher.replacement template m }

section Candidates

variable {rules : RuleSet} {violations : List Violation} {path : String} {text : List Char}

/-- **A candidate stands for a piece of the text.** -/
theorem Candidate.replaces {edit : Edit} (candidate : Candidate rules violations path text edit) :
    ∃ piece, edit.Replaces text piece := by
  cases candidate with
  | @of_match _ _ _ run m before after _ _ _ _ _ inRegion _ nonempty _ inside _ =>
    obtain ⟨⟨front, back, split, offset⟩, -⟩ := exists_append_of_mem_runs inRegion
    refine ⟨m.matched, nonempty, front ++ before, after ++ back, ?_, ?_, ?_⟩
    · rw [split, inside]
      simp only [List.append_assoc]
    · show run.offset + (Utf8.encode before).length = _
      rw [offset, Utf8.encode_append front, List.length_append]
    · show run.offset + (Utf8.encode (before ++ m.matched)).length = _
      rw [offset, List.append_assoc, Utf8.encode_append front, List.length_append]

/-- All bytes of a candidate lie in the region of its rule. -/
theorem Candidate.spares {edit : Edit} (candidate : Candidate rules violations path text edit)
    {place : Nat} (first : edit.start ≤ place) (last : place < edit.stop) :
    ∃ cell, (scan text).cells[place]? = some cell ∧ cell.1 ≠ newline ∧ cell.2 ≠ .literal := by
  cases candidate with
  | @of_match rule _ _ run m before after _ _ _ _ _ inRegion _ _ _ inside _ =>
    obtain ⟨-, -, kept⟩ := exists_append_of_mem_runs inRegion
    dsimp only at first last
    have within : (Utf8.encode (before ++ m.matched)).length ≤ (Utf8.encode run.text).length := by
      rw [inside, ← List.append_assoc, Utf8.encode_append (before ++ m.matched),
        List.length_append]
      exact Nat.le_add_right _ _
    obtain ⟨cell, same, region⟩ := kept (place - run.offset) (by omega)
    rw [Nat.add_sub_cancel' (by omega)] at same
    simp only [inRun, decide_eq_true_eq] at region
    refine ⟨cell, same, region.2, ?_⟩
    -- A region is code or comments.
    rw [region.1]
    cases rule.region <;> exact Kind.noConfusion

theorem mem_targets_iff {id : String} {line : Nat} :
    (id, line) ∈ targets violations path ↔
      ∃ violation ∈ violations, Path.same violation.file path = true ∧ violation.ruleId = id ∧
        violation.line = line := by
  simp only [targets, List.mem_mergeSort, List.mem_eraseDups, List.mem_map, List.mem_filter,
    Prod.mk.injEq, and_assoc]

/-- With distinct names, the pattern rule of a name is the one that has it. -/
theorem pattern?_eq_some_iff (distinct : (rules.rules.map Rule.id).Nodup) {id : String}
    {rule : PatternRule} :
    rules.pattern? id = some rule ↔ Rule.pattern rule ∈ rules.rules ∧ rule.id = id := by
  have listed {rule : PatternRule} :
      rule ∈ rules.rules.filterMap Rule.pattern? ↔ Rule.pattern rule ∈ rules.rules := by
    rw [List.mem_filterMap]
    constructor
    · rintro ⟨rule' | rule', mem, same⟩
      · cases same
        exact mem
      · cases same
    · intro mem
      exact ⟨_, mem, rfl⟩
  rw [RuleSet.pattern?]
  constructor
  · intro found
    have same := List.find?_some found
    exact ⟨listed.mp (List.mem_of_find?_eq_some found), eq_of_beq same⟩
  · rintro ⟨mem, rfl⟩
    cases found : (rules.rules.filterMap Rule.pattern?).find? (·.id == rule.id) with
    | none =>
      have missed := List.find?_eq_none.mp found rule (listed.mpr mem)
      exact absurd (beq_self_eq_true rule.id) missed
    | some other =>
      have same := List.find?_some found
      have equal := List.inj_on_of_nodup_map distinct
        (listed.mp (List.mem_of_find?_eq_some found)) mem (eq_of_beq same)
      cases equal
      rfl

theorem mem_editsIn_iff {rule : PatternRule} {template : String} {file : SourceFile}
    {span : Nat × Nat} {edit : Edit} :
    edit ∈ editsIn rule template file span ↔
      ∃ run ∈ file.scanned.runs rule.region span.1 span.2, ∃ m ∈ rule.matcher.findAll run.text,
        m.matched ≠ [] ∧ edit =
          { start := run.offset + m.byteOffset m.whole.start
            stop := run.offset + m.byteOffset m.whole.stop
            text := rule.matcher.replacement template m } := by
  simp only [editsIn, List.mem_flatMap, List.mem_map, List.mem_filter, Bool.not_eq_true',
    List.isEmpty_eq_false_iff, and_assoc, eq_comm (a := edit)]

theorem mem_editsFor_iff {file : SourceFile} {spans : List (Nat × Nat)} {target : Target}
    {edit : Edit} :
    edit ∈ editsFor rules file spans target ↔
      ∃ rule template span, rules.pattern? target.1 = some rule ∧
        rule.replacement = some template ∧ target.2 ≠ 0 ∧ spans[target.2 - 1]? = some span ∧
        edit ∈ editsIn rule template file span := by
  have among (edits : Option (List Edit)) :
      edit ∈ edits.getD [] ↔ ∃ listed, edits = some listed ∧ edit ∈ listed := by
    cases edits <;> simp
  rw [editsFor, among]
  by_cases zero : target.2 = 0
  · simp [zero]
  · simp only [zero, if_false, Option.bind_eq_bind, Option.bind_eq_some_iff, Option.some.injEq]
    constructor
    · rintro ⟨_, ⟨rule, found, template, rewrites, span, onLine, rfl⟩, mem⟩
      exact ⟨rule, template, span, found, rewrites, zero, onLine, mem⟩
    · rintro ⟨rule, template, span, found, rewrites, -, onLine, mem⟩
      exact ⟨_, ⟨rule, found, template, rewrites, span, onLine, rfl⟩, mem⟩

/-- **The edits of a file are its candidates.** -/
theorem mem_flatMap_editsFor_iff (distinct : (rules.rules.map Rule.id).Nodup)
    (violations : List Violation) (path : String) (text : List Char) (edit : Edit) :
    edit ∈ (targets violations path).flatMap (editsFor rules (SourceFile.of path text)
        (lineSpans 0 (splitOn newline (Utf8.encode text)))) ↔
      Candidate rules violations path text edit := by
  rw [List.mem_flatMap]
  constructor
  · rintro ⟨⟨id, line⟩, target, mem⟩
    obtain ⟨violation, reported, here, rfl, rfl⟩ := mem_targets_iff.mp target
    obtain ⟨rule, template, span, known, rewrites, positive, onLine, mem⟩ := mem_editsFor_iff.mp mem
    obtain ⟨listed, named⟩ := (pattern?_eq_some_iff distinct).mp known
    obtain ⟨run, inSpan, m, found, nonempty, rfl⟩ := mem_editsIn_iff.mp mem
    obtain ⟨inRegion, line⟩ :=
      (mem_runs_lineSpans_iff rule.region text (violation.line - 1) run).mp ⟨span, onLine, inSpan⟩
    rw [Nat.sub_add_cancel (Nat.pos_of_ne_zero positive)] at line
    have inside : run.text =
        m.text.take m.whole.start ++ (m.matched ++ m.text.drop m.whole.stop) := by
      rw [← List.append_assoc, ← Regex.Match.take_stop nonempty, List.take_append_drop,
        Matcher.text_of_mem_findAll found]
    have place := Regex.Match.length_take_start nonempty
    -- A match is on the line on which its run begins.
    have candidate : Candidate rules violations path text _ :=
      .of_match listed rewrites reported here named.symm inRegion found nonempty place inside
        (by rw [lineOf_add_of_mem_runs inRegion inside, line])
    rw [← Regex.Match.take_stop nonempty] at candidate
    exact candidate
  · intro candidate
    cases candidate with
    | @of_match rule template violation run m before after listed rewrites reported here named
        inRegion found nonempty place inside line =>
      rw [lineOf_add_of_mem_runs inRegion inside] at line
      have positive : violation.line ≠ 0 := by
        rw [line, lineOf]
        exact Nat.succ_ne_zero _
      obtain ⟨span, onLine, inSpan⟩ :=
        (mem_runs_lineSpans_iff rule.region text (violation.line - 1) run).mpr
          ⟨inRegion, by omega⟩
      refine ⟨(rule.id, violation.line), mem_targets_iff.mpr ⟨violation, reported, here, named, rfl⟩,
        mem_editsFor_iff.mpr ⟨rule, template, span, ?_, rewrites, positive, onLine, ?_⟩⟩
      · exact (pattern?_eq_some_iff distinct).mpr ⟨listed, rfl⟩
      · refine mem_editsIn_iff.mpr ⟨run, inSpan, m, found, nonempty, ?_⟩
        have first : m.text.take m.whole.start = before := by
          rw [Matcher.text_of_mem_findAll found, inside, List.take_left' place]
        rw [Regex.Match.byteOffset, Regex.Match.byteOffset, Regex.Match.take_stop nonempty, first]

end Candidates

/-! ### Plans -/

/-- How planning rewrites the text of a file: candidates are replaced, as many as can be made
together, and everything else is kept. -/
structure Rewrites (rules : RuleSet) (violations : List Violation) (path : String)
    (text : List Char) (edits : List Edit) (updated : List Char) : Prop where
  /-- Only matches that were reported are rewritten. -/
  candidate : ∀ edit ∈ edits, Candidate rules violations path text edit
  nonempty : ∀ edit ∈ edits, edit.start < edit.stop
  disjoint : edits.Pairwise fun a b => a.stop ≤ b.start
  /-- A candidate that is not made overlaps one that is made and may stand before it. -/
  maximal : ∀ edit, Candidate rules violations path text edit →
    edit ∈ edits ∨ ∃ applied ∈ edits, applied.before edit = true ∧ applied.Overlaps edit
  /-- Line breaks and literals are not rewritten. -/
  spares : ∀ edit ∈ edits, ∀ place, edit.start ≤ place → place < edit.stop →
    ∃ cell, (scan text).cells[place]? = some cell ∧ cell.1 ≠ newline ∧ cell.2 ≠ .literal
  spliced : Edit.Spliced 0 text edits updated

/-- What planning answers for a file, given by its path and its text.  There is a fix exactly if
there is a candidate and the text changes. -/
def Planned (rules : RuleSet) (violations : List Violation) (source : String × List Char)
    (fix : Option FileFix) : Prop :=
  ∃ edits updated, Rewrites rules violations source.1 source.2 edits updated ∧
    (fix = none ↔
      (∀ edit, ¬ Candidate rules violations source.1 source.2 edit) ∨ updated = source.2) ∧
    ∀ planned, fix = some planned →
      planned = ⟨source.1, String.ofList updated, edits.length⟩

section Plans

variable {rules : RuleSet} {violations : List Violation} {path : String} {text : List Char}

/-- There is something to rewrite exactly if there is a candidate. -/
theorem Rewrites.eq_nil_iff {edits : List Edit} {updated : List Char}
    (rewrites : Rewrites rules violations path text edits updated) :
    edits = [] ↔ ∀ edit, ¬ Candidate rules violations path text edit := by
  constructor
  · rintro rfl edit candidate
    rcases rewrites.maximal edit candidate with among | ⟨applied, among, -⟩
    · cases among
    · cases among
  · intro none
    exact List.eq_nil_iff_forall_not_mem.mpr fun edit among => none edit (rewrites.candidate edit among)

/-- Making the edits of a list rewrites the text, when its members are the candidates. -/
theorem exists_rewrites {edits : List Edit}
    (listed : ∀ edit, edit ∈ edits ↔ Candidate rules violations path text edit) :
    ∃ made updated, Rewrites rules violations path text made updated ∧
      Edit.applied? (Utf8.encode text) edits =
        if made = [] ∨ updated = text then none else some (Utf8.encode updated, made.length) := by
  obtain ⟨updated, spliced, applied⟩ :=
    Edit.applied?_eq fun edit mem => ((listed edit).mp mem).replaces
  have sorted := List.pairwise_mergeSort Edit.before_trans Edit.before_total edits
  -- From here on, the edits are taken in order.
  have listed (edit : Edit) :
      edit ∈ edits.mergeSort Edit.before ↔ Candidate rules violations path text edit :=
    List.mem_mergeSort.trans (listed edit)
  have ordered (edit : Edit) (mem : edit ∈ edits.mergeSort Edit.before) : edit.start < edit.stop := by
    obtain ⟨piece, replaces⟩ := ((listed edit).mp mem).replaces
    exact replaces.start_lt_stop
  have among {edit : Edit} (mem : edit ∈ Edit.chosen 0 (edits.mergeSort Edit.before)) :
      edit ∈ edits.mergeSort Edit.before := (Edit.chosen_sublist 0 _).subset mem
  refine ⟨Edit.chosen 0 (edits.mergeSort Edit.before), updated, ?_, applied⟩
  exact {
    candidate := fun edit mem => (listed edit).mp (among mem)
    nonempty := fun edit mem => ordered edit (among mem)
    disjoint := Edit.pairwise_chosen (fun edit mem => Nat.le_of_lt (ordered edit mem)) 0
    maximal := fun edit asked =>
      have mem := (listed edit).mpr asked
      Edit.mem_chosen_or_overlaps sorted mem (ordered edit mem)
    spares := fun edit mem place first last =>
      ((listed edit).mp (among mem)).spares first last
    spliced := spliced }

theorem ofFile?_planned (distinct : (rules.rules.map Rule.id).Nodup) (source : String × List Char) :
    Planned rules violations source
      (ofFile? rules violations (SourceFile.of source.1 source.2)) := by
  obtain ⟨path, text⟩ := source
  obtain ⟨made, updated, rewrites, applied⟩ :=
    exists_rewrites (mem_flatMap_editsFor_iff distinct violations path text)
  have answer : ofFile? rules violations (SourceFile.of path text) =
      if made = [] ∨ updated = text then none
      else some ⟨path, String.ofList updated, made.length⟩ := by
    have fix : ofFile? rules violations (SourceFile.of path text) = (Edit.applied?
        (Utf8.encode text) ((targets violations path).flatMap
          (editsFor rules (SourceFile.of path text)
            (lineSpans 0 (splitOn newline (Utf8.encode text)))))).bind
          fun result => some ⟨path, stringLossy result.1, result.2⟩ := rfl
    rw [fix, applied]
    split
    · rfl
    · rw [Option.bind_some, stringLossy, Utf8.decodeLossy_encode]
  refine ⟨made, updated, rewrites, ?_⟩
  rw [answer, ← rewrites.eq_nil_iff]
  split
  · next nothing =>
    refine ⟨iff_of_true rfl nothing, ?_⟩
    intro planned same
    cases same
  · next something =>
    exact ⟨iff_of_false (Option.some_ne_none _) something,
      fun planned same => (Option.some.inj same).symm⟩

/-- **Fix plans rewrite what was reported.**  Of every file, the reported matches are rewritten, as
many as can be made together, and nothing else is changed. -/
theorem plan_planned (distinct : (rules.rules.map Rule.id).Nodup)
    (sources : List (String × List Char)) :
    ∃ fixes, List.Forall₂ (Planned rules violations) sources fixes ∧
      plan (sources.map fun source => SourceFile.of source.1 source.2) violations rules =
        fixes.reduceOption := by
  refine ⟨sources.map fun source =>
    ofFile? rules violations (SourceFile.of source.1 source.2), ?_, ?_⟩
  · rw [List.forall₂_map_right_iff, List.forall₂_same]
    intro source mem
    exact ofFile?_planned distinct source
  · show _ = (sources.map _).filterMap id
    rw [plan, List.filterMap_map, List.filterMap_map]
    rfl

/-- A rule against casts, with a replacement. -/
def castRules : RuleSet :=
  ⟨[.pattern { id := "cast", message := "no casts", matcher := .terms false ["any".toList],
               replacement := some "unknown" }]⟩

/-- The cast on the reported line is rewritten.  The literal next to it, the comment behind it and
the next line are kept. -/
theorem plan_casts :
    (castRules.rules.map Rule.id).Nodup ∧
      (∃ fixes, List.Forall₂ (Planned castRules [.onLine "cast" "a.ts" 1 "no casts"])
          [("a.ts", "f(x as any, 'any'); // any\ny as any".toList)] fixes ∧
        plan [SourceFile.of "a.ts" "f(x as any, 'any'); // any\ny as any".toList]
          [.onLine "cast" "a.ts" 1 "no casts"] castRules = fixes.reduceOption) ∧
      plan [SourceFile.of "a.ts" "f(x as any, 'any'); // any\ny as any".toList]
          [.onLine "cast" "a.ts" 1 "no casts"] castRules =
        [⟨"a.ts", "f(x as unknown, 'any'); // any\ny as any", 1⟩] :=
  ⟨by decide, plan_planned (by decide) [("a.ts", "f(x as any, 'any'); // any\ny as any".toList)],
    by decide +kernel⟩

end Plans

end Fix

end QualityGate
