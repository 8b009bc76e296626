import Mathlib.Data.List.Flatten
import QualityGate.Proofs.Rule.Permutation
import QualityGate.Proofs.Rule.Planning

/-!
# Scanning only some of the files

A scan may be told to look at some of the files only.  This module compares what it then reports
with the report on all files.

* `RuleSet.IsLocal` – the violations of pattern rules.
* `RuleSet.Hides` – the violations that are not reported because nobody who claims the same is
  looked at.
* `RuleSet.run_narrowed` – of pattern rules, exactly the violations in the other files go; of claim
  rules, these and the hidden ones, and what stays only changes its wording.

### What is load-bearing

The files that are looked at are, up to their order, those with certain paths
(`perm_filter_of_subperm`), so that the lemmas about one rule are about paths to `keep`.  A claim
has the rivals that it has among all files, as far as they are kept (`ClaimRule.rivalsOf_filter`).
-/

namespace QualityGate

open QualityGate.Violation

variable {files looked : List SourceFile} {v : Violation}

/-! ### Files with certain paths -/

/-- Whether a path is that of one of some files. -/
def isPathOf (files : List SourceFile) (path : String) : Bool :=
  decide (path ∈ files.map (·.path))

/-- Files among others are those with their paths. -/
theorem perm_filter_of_subperm (distinct : DistinctPaths files) (part : looked.Subperm files) :
    looked.Perm (files.filter fun file => isPathOf looked file.path) := by
  have keys := distinct.nodup_keys
  obtain ⟨listed, perm, sublist⟩ := part
  have nodup : looked.Nodup := perm.nodup (sublist.nodup (List.Nodup.of_map _ keys))
  refine (List.perm_ext_iff_of_nodup nodup ((List.Nodup.of_map _ keys).filter _)).mpr fun file => ?_
  have among {file : SourceFile} (mem : file ∈ looked) : file ∈ files :=
    sublist.subset (perm.mem_iff.mpr mem)
  rw [List.mem_filter, isPathOf, decide_eq_true_eq, List.mem_map]
  constructor
  · exact fun mem => ⟨among mem, file, mem, rfl⟩
  · rintro ⟨mem, other, otherMem, same⟩
    rwa [← List.inj_on_of_nodup_map keys (among otherMem) mem (congrArg Path.key same)]

/-! ### Pattern rules -/

theorem PatternRule.ruleId_of_mem_run {rule : PatternRule} (mem : v ∈ rule.run files) :
    v.ruleId = rule.id := by
  obtain ⟨_, -, inFile⟩ := List.mem_flatMap.mp mem
  obtain ⟨_, _, -, rfl⟩ := PatternRule.mem_scanFile_iff.mp inFile
  rfl

/-- A pattern rule judges every file on its own. -/
theorem PatternRule.run_filter (rule : PatternRule) (keep : String → Bool)
    (files : List SourceFile) :
    rule.run (files.filter fun file => keep file.path) =
      (rule.run files).filter fun v => keep v.file := by
  rw [run_eq_flatMap, run_eq_flatMap, ← rule.own_found.filter_flatMap]
  rfl

/-! ### Wording -/

/-- The violation without its wording: its rule, file, line and snippet. -/
def Violation.wordless (v : Violation) : Violation := { v with message := "" }

/-- The wording does not matter for the order. -/
theorem Violation.map_wordless_sort (vs : List Violation) :
    (sort vs).map wordless = sort (vs.map wordless) := by
  refine eq_of_atPlace_eq ?_ (inOrder_sort _) fun p => ?_
  · exact List.pairwise_map.mpr (inOrder_sort vs)
  · have alike (vs : List Violation) : atPlace p (vs.map wordless) = (atPlace p vs).map wordless :=
      List.filter_map
    rw [atPlace_sort, alike, alike, atPlace_sort]

/-! ### Claim rules -/

namespace ClaimRule

variable (rule : ClaimRule) (keep : String → Bool) (claims : List Claim)

theorem ruleId_of_mem_run {rule : ClaimRule} (mem : v ∈ rule.run files) : v.ruleId = rule.id := by
  rw [run_eq_reports] at mem
  obtain ⟨_, -, onCapability⟩ := List.mem_flatMap.mp mem
  obtain ⟨_, -, rfl⟩ := List.mem_map.mp onCapability
  rfl

theorem claims_filter (files : List SourceFile) :
    rule.claims (files.filter fun file => keep file.path) =
      (rule.claims files).filter fun claim => keep claim.file := by
  rw [claims_eq_flatMap, claims_eq_flatMap, ← rule.own_found.filter_flatMap]
  rfl

/-- The rivals among the claims of some paths are the rivals with these paths. -/
theorem rivalsOf_filter (claim : Claim) :
    rivalsOf (claims.filter fun claim => keep claim.file) claim =
      (rivalsOf claims claim).filter keep := by
  have paths : ((claims.filter fun claim => keep claim.file).filter
      (·.capability == claim.capability)).map (·.file) =
        ((claims.filter (·.capability == claim.capability)).map (·.file)).filter keep := by
    rw [List.filter_comm, List.filter_map]
    rfl
  rw [rivalsOf, paths, Text.sortedSet_filter, List.filter_comm]
  rfl

/-- A claim that is reported among some claims is reported among more. -/
theorem isReported_of_filter {capability : String} {claim : Claim}
    (reported : isReported (claims.filter fun claim => keep claim.file) capability claim = true) :
    isReported claims capability claim = true := by
  rw [isReported, Bool.and_eq_true, Bool.not_eq_true', List.isEmpty_eq_false_iff_exists_mem] at *
  obtain ⟨same, path, mem⟩ := reported
  rw [rivalsOf_filter] at mem
  exact ⟨same, path, List.mem_of_mem_filter mem⟩

/-- The reports on the claims of some paths, gone through by the capabilities of all claims. -/
theorem reports_filter :
    rule.reports (claims.filter fun claim => keep claim.file) =
      (Text.sortedSet (claims.map (·.capability))).flatMap fun capability =>
        ((claims.filter fun claim => keep claim.file).filter
          (isReported (claims.filter fun claim => keep claim.file) capability)).map
            (rule.report (claims.filter fun claim => keep claim.file)) := by
  set kept := claims.filter fun claim => keep claim.file with isKept
  have capabilities : Text.sortedSet (kept.map (·.capability)) =
      (Text.sortedSet (claims.map (·.capability))).filter (· ∈ kept.map (·.capability)) := by
    refine Text.sortedSet_eq ((Text.pairwise_lt_sortedSet _).filter _) fun capability => ?_
    rw [List.mem_filter, Text.mem_sortedSet, decide_eq_true_eq, and_iff_right_iff_imp]
    exact fun mem => (List.filter_sublist.map _).subset mem
  rw [reports, capabilities, flatMap_filter_eq]
  refine List.flatMap_congr fun capability _ => ?_
  split
  · rfl
  · next other =>
    -- Nobody who is kept claims the capability.
    have none : kept.filter (isReported kept capability) = [] := by
      refine List.filter_eq_nil_iff.mpr fun claim mem reported => other (decide_eq_true ?_)
      rw [isReported, Bool.and_eq_true, beq_iff_eq] at reported
      exact List.mem_map.mpr ⟨claim, mem, reported.1⟩
    rw [none, List.map_nil]

/-- What is reported among some claims is reported among all, up to the wording. -/
theorem reports_filter_sublist :
    ((rule.reports (claims.filter fun claim => keep claim.file)).map wordless).Sublist
      ((rule.reports claims).map wordless) := by
  rw [reports_filter, reports, List.map_flatMap, List.map_flatMap]
  refine List.Sublist.flatMap_right _ fun capability _ => ?_
  rw [List.map_map, List.map_map]
  refine List.Sublist.map _ ?_
  refine .trans (List.monotone_filter_right _ fun _ => ?_) (List.filter_sublist.filter _)
  exact isReported_of_filter keep claims

/-- The reports on claims of some paths whose rivals all have other paths. -/
def hidden : List Violation :=
  (Text.sortedSet (claims.map (·.capability))).flatMap fun capability =>
    (((claims.filter fun claim => keep claim.file).filter (isReported claims capability)).filter
      fun claim => ! isReported (claims.filter fun claim => keep claim.file) capability claim).map
        (rule.report claims)

/-- Of the claims of some paths, those are reported among all claims that are reported among
themselves, and the hidden ones. -/
theorem reports_perm :
    (((rule.reports claims).filter fun v => keep v.file).map wordless).Perm
      ((rule.reports (claims.filter fun claim => keep claim.file) ++ rule.hidden keep claims).map
        wordless) := by
  set kept := claims.filter fun claim => keep claim.file with isKept
  have inPaths : (rule.reports claims).filter (fun v => keep v.file) =
      (Text.sortedSet (claims.map (·.capability))).flatMap fun capability =>
        (kept.filter (isReported claims capability)).map (rule.report claims) := by
    rw [reports, List.filter_flatMap]
    refine List.flatMap_congr fun capability _ => ?_
    rw [List.filter_map, isKept, List.filter_comm]
    rfl
  rw [inPaths, isKept, reports_filter, ← isKept, hidden, ← isKept, List.map_append,
    List.map_flatMap, List.map_flatMap, List.map_flatMap]
  refine .trans (.flatMap_left _ fun capability _ => ?_) (List.flatMap_append_perm _ _ _).symm
  -- What is reported among all claims is split by whether it is reported among the kept ones.
  have both : (kept.filter (isReported claims capability)).filter (isReported kept capability) =
      kept.filter (isReported kept capability) := by
    rw [List.filter_filter]
    refine List.filter_congr fun claim _ => ?_
    rw [Bool.and_eq_left_iff_imp]
    exact isReported_of_filter keep claims
  have parts := List.filter_append_perm (isReported kept capability)
    (kept.filter (isReported claims capability))
  rw [both] at parts
  rw [List.map_map, List.map_map, List.map_map]
  exact (parts.symm.map _).trans (by rw [List.map_append]; exact .refl _)

/-! #### Hidden violations -/

/-- There is only one report of a claim. -/
theorem Reports.unique {rule : ClaimRule} {claim : Claim} {w : Violation}
    (first : rule.Reports files claim v) (second : rule.Reports files claim w) : v = w := by
  obtain ⟨rivals, ordered, mem, rfl⟩ := first
  obtain ⟨rivals', ordered', mem', rfl⟩ := second
  -- The rivals are a set that is written down in order, which can be done in one way.
  have set {rivals : List String} (ordered : (rivals.map Text.bytesOf).Pairwise (· < ·)) :
      Text.sortedSet rivals = rivals :=
    Text.sortedSet_eq ((List.pairwise_map.mp ordered).imp Text.bytesOf_lt_bytesOf_iff.mp)
      fun _ => Iff.rfl
  have same : rivals = rivals' := by
    rw [← set ordered, ← set ordered']
    exact Text.sortedSet_congr fun path => by rw [mem, mem']
  rw [same]

/-- A violation that is not reported because nobody who claims the same is looked at: it reports a
claim of a file that is looked at, and all rivals are in files that are not. -/
def Hides (rule : ClaimRule) (files looked : List SourceFile) (v : Violation) : Prop :=
  ∃ site claim, rule.ClaimsAt files site claim ∧ claim.file ∈ looked.map (·.path) ∧
    rule.Contested files claim ∧
    (∀ path, rule.Rival files claim path → path ∉ looked.map (·.path)) ∧
    rule.Reports files claim v

theorem mem_hidden_iff {rule : ClaimRule} :
    v ∈ rule.hidden (isPathOf looked) (rule.claims files) ↔ rule.Hides files looked v := by
  set kept := (rule.claims files).filter fun claim => isPathOf looked claim.file with isKept
  have alone (claim : Claim) : rivalsOf kept claim = [] ↔
      ∀ path, rule.Rival files claim path → path ∉ looked.map (·.path) := by
    rw [isKept, rivalsOf_filter, List.filter_eq_nil_iff]
    refine forall_congr' fun path => ?_
    rw [mem_rivalsOf_iff, isPathOf, decide_eq_true_eq]
  have apart {capability : String} {claim : Claim} :
      claim ∈ ((kept.filter (isReported (rule.claims files) capability)).filter
        fun claim => ! isReported kept capability claim) ↔
      claim ∈ rule.claims files ∧ claim.file ∈ looked.map (·.path) ∧
        claim.capability = capability ∧ rule.Contested files claim ∧
        ∀ path, rule.Rival files claim path → path ∉ looked.map (·.path) := by
    rw [List.mem_filter, List.mem_filter, isKept, List.mem_filter, isPathOf, decide_eq_true_eq,
      isReported_iff, ← isKept, isReported, and_assoc, and_assoc, and_assoc, ← alone]
    refine and_congr_right fun _ => and_congr_right fun _ => and_congr_right fun same =>
      and_congr_right fun _ => ?_
    rw [same, beq_self_eq_true, Bool.true_and, Bool.not_not, List.isEmpty_iff]
  rw [hidden, List.mem_flatMap]
  constructor
  · rintro ⟨capability, -, mem⟩
    obtain ⟨claim, known, rfl⟩ := List.mem_map.mp mem
    obtain ⟨known, inLooked, -, contested, outside⟩ := apart.mp known
    obtain ⟨site, claims⟩ := mem_claims_iff.mp known
    exact ⟨site, claim, claims, inLooked, contested, outside, reports_report claims⟩
  · rintro ⟨site, claim, claims, inLooked, contested, outside, reports⟩
    have known : claim ∈ rule.claims files := mem_claims_iff.mpr ⟨site, claims⟩
    refine ⟨claim.capability, Text.mem_sortedSet.mpr (List.mem_map_of_mem known), ?_⟩
    refine List.mem_map.mpr ⟨claim, apart.mpr ⟨known, inLooked, rfl, contested, outside⟩, ?_⟩
    exact (reports_report claims).unique reports

end ClaimRule

/-! ### Rule sets -/

namespace Rule

variable (keep : String → Bool)

/-- The violations of a rule that are hidden when only some files are looked at. -/
def hidden (files : List SourceFile) : Rule → List Violation
  | .pattern _ => []
  | .claim rule => rule.hidden keep (rule.claims files)

theorem ruleId_of_mem_run {rule : Rule} (mem : v ∈ rule.run files) : v.ruleId = rule.id := by
  cases rule with
  | pattern rule => exact PatternRule.ruleId_of_mem_run mem
  | claim rule => exact ClaimRule.ruleId_of_mem_run mem

variable (rule : Rule) (files : List SourceFile)

theorem run_filter_sublist :
    ((rule.run (files.filter fun file => keep file.path)).map wordless).Sublist
      ((rule.run files).map wordless) := by
  cases rule with
  | pattern rule =>
    rw [run, run, rule.run_filter]
    exact List.filter_sublist.map _
  | claim rule =>
    rw [run, run, rule.run_eq_reports, rule.run_eq_reports, rule.claims_filter]
    exact rule.reports_filter_sublist keep _

theorem run_filter_perm :
    (((rule.run files).filter fun v => keep v.file).map wordless).Perm
      ((rule.run (files.filter fun file => keep file.path) ++ rule.hidden keep files).map
        wordless) := by
  cases rule with
  | pattern rule =>
    rw [run, run, rule.run_filter, hidden, List.append_nil]
  | claim rule =>
    rw [run, run, rule.run_eq_reports, rule.run_eq_reports, rule.claims_filter]
    exact rule.reports_perm keep _

end Rule

namespace RuleSet

variable {set : RuleSet}

/-- Whether a violation is one of a pattern rule. -/
def isLocal (set : RuleSet) (v : Violation) : Bool := (set.pattern? v.ruleId).isSome

/-- A claim rule of the set hides a violation. -/
def Hides (set : RuleSet) (files looked : List SourceFile) (v : Violation) : Prop :=
  ∃ rule, Rule.claim rule ∈ set.rules ∧ rule.Hides files looked v

/-- With distinct names, a violation of a rule is local exactly when the rule is a pattern rule. -/
theorem isLocal_of_mem_run (ids : (set.rules.map Rule.id).Nodup) {rule : Rule}
    (listed : rule ∈ set.rules) (mem : v ∈ rule.run files) :
    set.isLocal v = rule.pattern?.isSome := by
  have named := Rule.ruleId_of_mem_run mem
  cases rule with
  | pattern rule =>
    rw [isLocal, (Fix.pattern?_eq_some_iff ids).mpr ⟨listed, named.symm⟩]
    rfl
  | claim rule =>
    rw [isLocal, Bool.eq_iff_iff, Option.isSome_iff_exists]
    refine ⟨fun ⟨other, found⟩ => ?_, fun never => nomatch never⟩
    obtain ⟨otherListed, same⟩ := (Fix.pattern?_eq_some_iff ids).mp found
    have equal := List.inj_on_of_nodup_map ids listed otherListed (named.symm.trans same.symm)
    cases equal

/-- The local violations in certain files are found by looking at these files. -/
theorem run_filter_local (ids : (set.rules.map Rule.id).Nodup) (keep : String → Bool)
    (files : List SourceFile) :
    (set.run (files.filter fun file => keep file.path)).filter set.isLocal =
      ((set.run files).filter set.isLocal).filter fun v => keep v.file := by
  rw [run, run, filter_sort, filter_sort, filter_sort, List.filter_flatMap, List.filter_flatMap,
    List.filter_flatMap]
  refine congrArg sort (List.flatMap_congr fun rule listed => ?_)
  cases rule with
  | pattern rule => rw [Rule.run, Rule.run, rule.run_filter, List.filter_comm]
  | claim rule =>
    have none (files : List SourceFile) :
        ((Rule.claim rule).run files).filter set.isLocal = [] := by
      refine List.filter_eq_nil_iff.mpr fun v mem found => ?_
      rw [isLocal_of_mem_run ids listed mem] at found
      cases found
    rw [none, none, List.filter_nil]

theorem mem_hidden_iff : v ∈ set.rules.flatMap (Rule.hidden (isPathOf looked) files) ↔
    set.Hides files looked v := by
  rw [List.mem_flatMap]
  constructor
  · rintro ⟨rule | rule, listed, mem⟩
    · cases mem
    · exact ⟨rule, listed, ClaimRule.mem_hidden_iff.mp mem⟩
  · rintro ⟨rule, listed, hides⟩
    exact ⟨.claim rule, listed, ClaimRule.mem_hidden_iff.mpr hides⟩

/-- **Looking at fewer files neither invents nor loses local violations.**  When only some of the
files are looked at, the violations of pattern rules are exactly those in these files, in the same
order.  Whatever is reported is reported on all files as well, in the same order, with the same
rule, file, line and snippet.  And all that is missing of the violations in these files are reports
of claims whose rivals are all in files that are not looked at. -/
theorem run_narrowed (set : RuleSet) (ids : (set.rules.map Rule.id).Nodup)
    (distinct : DistinctPaths files) (part : looked.Subperm files) :
    (set.run looked).filter set.isLocal =
      ((set.run files).filter set.isLocal).filter (isPathOf looked ·.file) ∧
    ((set.run looked).map wordless).Sublist ((set.run files).map wordless) ∧
    ∃ hidden, (((set.run files).filter (isPathOf looked ·.file)).map wordless).Perm
        ((set.run looked ++ hidden).map wordless) ∧
      ∀ v, v ∈ hidden ↔ set.Hides files looked v := by
  have fewer : DistinctPaths (files.filter fun file => isPathOf looked file.path) :=
    distinct.sublist (List.filter_sublist.map _)
  rw [set.run_perm fewer (perm_filter_of_subperm distinct part)]
  refine ⟨run_filter_local ids _ files, ?_, _, ?_, fun v => mem_hidden_iff⟩
  · rw [run, run, map_wordless_sort, map_wordless_sort, List.map_flatMap, List.map_flatMap]
    exact sort_sublist (List.Sublist.flatMap_right _ fun rule _ =>
      rule.run_filter_sublist (isPathOf looked) files)
  · have byRule := List.Perm.flatMap_left set.rules fun rule _ =>
      rule.run_filter_perm (isPathOf looked) files
    simp only [← List.map_flatMap, ← List.filter_flatMap] at byRule
    refine (((sort_perm _).filter _).map _).trans (byRule.trans (.map _ ?_))
    refine (List.flatMap_append_perm _ _ _).symm.trans (.append_right _ (sort_perm _).symm)

/-- Of the file on its own, the word is reported, and what both files own is not. -/
theorem run_narrowed_owners :
    (ownership.run (owners.take 1)).filter ownership.isLocal =
      ((ownership.run owners).filter ownership.isLocal).filter
        (isPathOf (owners.take 1) ·.file) ∧
    ∃ hidden, (((ownership.run owners).filter (isPathOf (owners.take 1) ·.file)).map wordless).Perm
        ((ownership.run (owners.take 1) ++ hidden).map wordless) ∧ hidden ≠ [] := by
  have ids : (ownership.rules.map Rule.id).Nodup := by decide +kernel
  have distinct : DistinctPaths owners := by decide +kernel
  obtain ⟨same, -, hidden, perm, mem⟩ :=
    ownership.run_narrowed ids distinct (List.take_sublist 1 owners).subperm
  have snippets : (oneOwner.hidden (isPathOf (owners.take 1)) (oneOwner.claims owners)).map
      (·.snippet) = [some "owns x", some "owns y"] := by
    rw [ClaimRule.hidden, capabilities_owners, claims_owners]
    simp only [ClaimRule.isReported_eq]
    decide +kernel
  refine ⟨same, hidden, perm, fun none => ?_⟩
  have some : ∀ v, v ∉ oneOwner.hidden (isPathOf (owners.take 1)) (oneOwner.claims owners) := by
    intro v found
    have hides := ClaimRule.mem_hidden_iff.mp found
    exact List.not_mem_nil (none ▸ (mem v).mpr ⟨oneOwner, List.mem_of_mem_getLast? rfl, hides⟩)
  rw [List.eq_nil_iff_forall_not_mem.mpr some] at snippets
  cases snippets

end RuleSet

end QualityGate
