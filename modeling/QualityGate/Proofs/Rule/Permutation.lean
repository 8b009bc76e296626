import QualityGate.Proofs.Rule.Claims
import QualityGate.Proofs.Rule.Order
import QualityGate.Proofs.Rule.Scanning

/-!
# The order of files does not matter

A scan gets its files in the order in which a directory was listed or a user named them, and its
report must not show it.

* `Own` – what is collected from a file names the path of the file.
* `RuleSet.atPlace_run` – at every place a report goes through the rules in order, and lists what
  each of them has there in the order in which the rule found it.
* `RuleSet.run_perm` – the same files in another order have the same report.
* `RuleSet.run_ordered` – both, with what a report consists of.

### What is load-bearing

Files whose paths have different components are never at one place, so at every place a rule looks
at one file only (`filter_key_eq_of_perm`).  What a claim rule says about a claim also depends on
the other files, but only on which claims there are (`ClaimRule.report_congr`).
-/

namespace QualityGate

open QualityGate.Violation

variable {files files' : List SourceFile}

/-! ### What is found in a file -/

/-- The components of the paths of some files are pairwise different. -/
def DistinctPaths (files : List SourceFile) : Prop :=
  (files.map fun file => Path.components file.path.toList).Nodup

instance : Decidable (DistinctPaths files) :=
  inferInstanceAs (Decidable (List.map _ files).Nodup)

theorem DistinctPaths.nodup_keys (distinct : DistinctPaths files) :
    (files.map fun file => Path.key file.path).Nodup := by
  rw [List.Nodup, List.pairwise_map]
  exact (List.pairwise_map.mp distinct).imp fun apart same => apart (Path.key_eq_iff.mp same)

/-- At one place there is one file, whatever the order of the files. -/
theorem filter_key_eq_of_perm (distinct : DistinctPaths files) (perm : files'.Perm files)
    (key : List (List ℕ)) :
    files'.filter (Path.key ·.path = key) = files.filter (Path.key ·.path = key) := by
  -- Any two files with this key are one file, so every list of them is as good as sorted.
  have all (files : List SourceFile) : files.Pairwise fun _ _ => True :=
    List.pairwise_of_forall fun _ _ => trivial
  refine (perm.filter _).eq_of_pairwise (fun a b memA memB _ _ => ?_) (all _) (all _)
  obtain ⟨memA, keyA⟩ := List.mem_filter.mp ((perm.filter _).mem_iff.mp memA)
  obtain ⟨memB, keyB⟩ := List.mem_filter.mp memB
  exact List.inj_on_of_nodup_map distinct.nodup_keys memA memB
    ((of_decide_eq_true keyA).trans (of_decide_eq_true keyB).symm)

section Own

variable {β : Type} {collect : SourceFile → List β} {pathOf : β → String}

/-- What is collected from a file names the path of the file. -/
def Own (collect : SourceFile → List β) (pathOf : β → String) : Prop :=
  ∀ file, ∀ item ∈ collect file, pathOf item = file.path

/-- What is collected for some paths is collected from the files with these paths. -/
theorem Own.filter_flatMap (own : Own collect pathOf) (keep : String → Bool)
    (files : List SourceFile) :
    (files.flatMap collect).filter (keep ∘ pathOf) =
      (files.filter fun file => keep file.path).flatMap collect := by
  rw [List.filter_flatMap, ClaimRule.flatMap_filter_eq]
  apply List.flatMap_congr
  intro file _
  cases kept : keep file.path with
  | true =>
    refine List.filter_eq_self.mpr fun item mem => ?_
    rw [Function.comp_apply, own file item mem, kept]
  | false =>
    refine List.filter_eq_nil_iff.mpr fun item mem => ?_
    rw [Function.comp_apply, own file item mem, kept]
    exact Bool.false_ne_true

/-- What is collected for one path does not depend on the order of the files. -/
theorem Own.filter_flatMap_of_perm (own : Own collect pathOf) (distinct : DistinctPaths files)
    (perm : files'.Perm files) (key : List (List ℕ)) :
    (files'.flatMap collect).filter (fun item => Path.key (pathOf item) = key) =
      (files.flatMap collect).filter (fun item => Path.key (pathOf item) = key) := by
  have alone (files : List SourceFile) :=
    own.filter_flatMap (fun path => decide (Path.key path = key)) files
  calc _ = (files'.filter (Path.key ·.path = key)).flatMap collect := alone files'
    _ = (files.filter (Path.key ·.path = key)).flatMap collect := by
      rw [filter_key_eq_of_perm distinct perm]
    _ = _ := (alone files).symm

end Own

/-! ### Pattern rules -/

namespace PatternRule

variable (rule : PatternRule)

/-- The violations of a file, if the rule looks at it. -/
def found (file : SourceFile) : List Violation :=
  if rule.appliesTo file.path then rule.scanFile file else []

theorem run_eq_flatMap (files : List SourceFile) : rule.run files = files.flatMap rule.found :=
  ClaimRule.flatMap_filter_eq _ _ _

theorem own_found : Own rule.found Violation.file := by
  intro file v mem
  unfold found at mem
  split at mem
  · obtain ⟨_, _, -, rfl⟩ := mem_scanFile_iff.mp mem
    rfl
  · cases mem

theorem atPlace_run_of_perm (distinct : DistinctPaths files) (perm : files'.Perm files)
    (p : Place) : atPlace p (rule.run files') = atPlace p (rule.run files) := by
  rw [atPlace_eq, atPlace_eq, run_eq_flatMap, run_eq_flatMap,
    rule.own_found.filter_flatMap_of_perm distinct perm]

end PatternRule

/-! ### Claim rules -/

namespace ClaimRule

variable {claims claims' : List Claim}

/-- Which paths are rivals depends on which claims there are. -/
theorem rivalsOf_congr (same : ∀ claim, claim ∈ claims' ↔ claim ∈ claims) :
    rivalsOf claims' = rivalsOf claims := by
  funext claim
  rw [rivalsOf, rivalsOf]
  congr 1
  apply Text.sortedSet_congr
  intro path
  simp only [List.mem_map, List.mem_filter, same]

theorem isReported_congr (same : ∀ claim, claim ∈ claims' ↔ claim ∈ claims) :
    isReported claims' = isReported claims := by
  funext capability claim
  rw [isReported, isReported, rivalsOf_congr same]

theorem report_congr (rule : ClaimRule) (same : ∀ claim, claim ∈ claims' ↔ claim ∈ claims) :
    rule.report claims' = rule.report claims := by
  funext claim
  rw [report, report, rivalsOf_congr same]

variable (rule : ClaimRule)

/-- The violations, capability by capability and claim by claim. -/
def reports (claims : List Claim) : List Violation :=
  (Text.sortedSet (claims.map (·.capability))).flatMap fun capability =>
    (claims.filter (isReported claims capability)).map (rule.report claims)

theorem run_eq_reports (files : List SourceFile) :
    rule.run files = rule.reports (rule.claims files) := by
  rw [run, reports]
  exact List.flatMap_congr fun capability _ => rule.conflicts_eq _ capability

/-- At every place there are the reports of the claims that were made there. -/
theorem atPlace_reports (p : Place) (claims : List Claim) : atPlace p (rule.reports claims) =
    (Text.sortedSet (claims.map (·.capability))).flatMap fun capability =>
      (((claims.filter (Path.key ·.file = (ofLex p).1)).filter (max ·.line 1 = (ofLex p).2)).filter
        (isReported claims capability)).map (rule.report claims) := by
  rw [atPlace, reports, List.filter_flatMap]
  refine List.flatMap_congr fun capability _ => ?_
  have here : (fun v : Violation => decide (v.place = p)) ∘ rule.report claims = fun claim =>
      decide (max claim.line 1 = (ofLex p).2) && decide (Path.key claim.file = (ofLex p).1) := by
    funext claim
    rw [Function.comp_apply, ← Bool.decide_and, decide_eq_decide, place_eq_iff, and_comm]
    rfl
  rw [List.filter_map, here, List.filter_comm, ← List.filter_filter]

/-- The claims of a file, if the rule looks at it. -/
def found (file : SourceFile) : List Claim :=
  if rule.appliesTo file.path then rule.claimsOf file else []

theorem claims_eq_flatMap (files : List SourceFile) :
    rule.claims files = files.flatMap rule.found :=
  flatMap_filter_eq _ _ _

theorem own_found : Own rule.found Claim.file := by
  intro file claim mem
  unfold found at mem
  split at mem
  · obtain ⟨_, -, onLine⟩ := List.mem_flatMap.mp mem
    obtain ⟨_, -, inRun⟩ := List.mem_flatMap.mp onLine
    obtain ⟨_, -, claimed⟩ := List.mem_filterMap.mp inRun
    obtain ⟨_, -, rfl⟩ := Option.map_eq_some_iff.mp claimed
    rfl
  · cases mem

theorem atPlace_run_of_perm (distinct : DistinctPaths files) (perm : files'.Perm files)
    (p : Place) : atPlace p (rule.run files') = atPlace p (rule.run files) := by
  -- The claims of the place keep their order; of all others only the set matters.
  have all : (rule.claims files').Perm (rule.claims files) := by
    rw [claims_eq_flatMap, claims_eq_flatMap]
    exact perm.flatMap_right rule.found
  have inFile : (rule.claims files').filter (Path.key ·.file = (ofLex p).1) =
      (rule.claims files).filter (Path.key ·.file = (ofLex p).1) := by
    rw [claims_eq_flatMap, claims_eq_flatMap,
      rule.own_found.filter_flatMap_of_perm distinct perm]
  have capabilities : Text.sortedSet ((rule.claims files').map (·.capability)) =
      Text.sortedSet ((rule.claims files).map (·.capability)) :=
    Text.sortedSet_congr fun _ => (all.map _).mem_iff
  have same (claim : Claim) : claim ∈ rule.claims files' ↔ claim ∈ rule.claims files := all.mem_iff
  rw [run_eq_reports, run_eq_reports, atPlace_reports, atPlace_reports, capabilities, inFile,
    isReported_congr same, report_congr rule same]

end ClaimRule

/-! ### Rule sets -/

theorem Rule.atPlace_run_of_perm (rule : Rule) (distinct : DistinctPaths files)
    (perm : files'.Perm files) (p : Place) :
    atPlace p (rule.run files') = atPlace p (rule.run files) := by
  cases rule with
  | pattern rule => exact rule.atPlace_run_of_perm distinct perm p
  | claim rule => exact rule.atPlace_run_of_perm distinct perm p

namespace RuleSet

variable (set : RuleSet)

/-- At every place the report goes through the rules in order. -/
theorem atPlace_run (files : List SourceFile) (p : Place) :
    atPlace p (set.run files) = set.rules.flatMap fun rule => atPlace p (rule.run files) := by
  rw [run, atPlace_sort, atPlace, List.filter_flatMap]
  rfl

/-- The same files in another order have the same report. -/
theorem run_perm (distinct : DistinctPaths files) (perm : files'.Perm files) :
    set.run files' = set.run files := by
  refine eq_of_atPlace_eq (inOrder_sort _) (inOrder_sort _) fun p => ?_
  rw [atPlace_run, atPlace_run]
  exact List.flatMap_congr fun rule _ => rule.atPlace_run_of_perm distinct perm p

/-- **Reports are in order, and the order of the files does not matter.**  A report holds what the
rules find, no more and no less; it is ordered by file, component by component, and by line; at
every place it goes through the rules in order and keeps what each of them found there as it was
found; and the same files in any other order have the same report. -/
theorem run_ordered (distinct : DistinctPaths files) :
    (set.run files).Perm (set.rules.flatMap fun rule => rule.run files) ∧
    InOrder (set.run files) ∧
    (∀ p, atPlace p (set.run files) = set.rules.flatMap fun rule => atPlace p (rule.run files)) ∧
    ∀ files', files'.Perm files → set.run files' = set.run files :=
  ⟨sort_perm _, inOrder_sort _, set.atPlace_run files, fun _ perm => set.run_perm distinct perm⟩

/-- A rule against a word. -/
def avoidOwns : PatternRule :=
  { id := "word", message := "avoid", matcher := .terms false ["owns".toList] }

/-- A rule against two owners of a thing. -/
def oneOwner : ClaimRule where
  id := "owner"
  message := "two owners"
  matcher :=
    { source := "owns (x|y)"
      program := (Regex.Expr.seqs [.char 'o', .char 'w', .char 'n', .char 's', .char ' ',
        .group 1 (.alt (.char 'x') (.char 'y'))]).program
      names := [] }

/-- The rule against the word before the one against two owners. -/
def ownership : RuleSet := ⟨[.pattern avoidOwns, .claim oneOwner]⟩

/-- Two files that both own two things, on one line each. -/
def owners : List SourceFile :=
  [.of "src/b" "owns y, owns x;".toList, .of "src/a" "owns x, owns y;".toList]

theorem claims_owners : oneOwner.claims owners =
    [⟨"y", "src/b", 1, "owns y"⟩, ⟨"x", "src/b", 1, "owns x"⟩,
      ⟨"x", "src/a", 1, "owns x"⟩, ⟨"y", "src/a", 1, "owns y"⟩] := by
  decide +kernel

theorem capabilities_owners :
    Text.sortedSet ((oneOwner.claims owners).map (·.capability)) = ["x", "y"] := by
  rw [claims_owners]
  exact Text.sortedSet_eq (by decide) fun _ => by grind

/-- The two rules find six violations, in whatever order the two files come. -/
theorem run_ordered_owners :
    DistinctPaths owners ∧
    InOrder (ownership.run owners) ∧
    ownership.run owners.reverse = ownership.run owners ∧
    ((ownership.run owners).map fun v => (v.ruleId, v.file, v.snippet)).Perm
        [("word", "src/b", some "owns"), ("word", "src/a", some "owns"),
          ("owner", "src/b", some "owns x"), ("owner", "src/a", some "owns x"),
          ("owner", "src/b", some "owns y"), ("owner", "src/a", some "owns y")] := by
  have distinct : DistinctPaths owners := by decide +kernel
  obtain ⟨all, ordered, -, same⟩ := ownership.run_ordered distinct
  refine ⟨distinct, ordered, same _ owners.reverse_perm, (all.map _).trans ?_⟩
  have words : (avoidOwns.run owners).map (fun v => (v.ruleId, v.file, v.snippet)) =
      [("word", "src/b", some "owns"), ("word", "src/a", some "owns")] := by
    decide +kernel
  have rivals : (oneOwner.run owners).map (fun v => (v.ruleId, v.file, v.snippet)) =
      [("owner", "src/b", some "owns x"), ("owner", "src/a", some "owns x"),
        ("owner", "src/b", some "owns y"), ("owner", "src/a", some "owns y")] := by
    rw [ClaimRule.run_eq_reports, ClaimRule.reports, capabilities_owners, claims_owners]
    simp only [ClaimRule.isReported_eq]
    decide +kernel
  simp only [ownership, List.flatMap_cons, List.flatMap_nil, List.append_nil, Rule.run,
    List.map_append, words, rivals]
  exact List.Perm.refl _

end RuleSet

end QualityGate
