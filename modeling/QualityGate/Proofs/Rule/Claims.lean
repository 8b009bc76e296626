import Mathlib.Data.List.Forall2
import QualityGate.Proofs.Rule.Unseen
import QualityGate.Proofs.Text.Order

/-!
# What claim rules report

A claim rule collects the claims of all files before it judges any of them.  This module says what
it reports, claim by claim.

* A `Site` is the place of a claim: its file, its line, its run on the line, and its match in the
  run.  `ClaimsAt` says which claim is made at a site, from the regions and the matches alone.
* `Contested` – another path claims the same.
* `run_exact` – the violations are those of the contested claims, each with its own file, line and
  text and with the other paths that claim the same, in the order of capability and then of site.

### What is load-bearing

The sites of all claims are in strictly increasing order (`pairwise_located`), so a list of claims
with their sites holds no claim twice, and none is lost because membership is an equivalence
(`mem_located_iff`).
-/

namespace QualityGate.ClaimRule

open QualityGate.Source
open QualityGate.Text (bytesOf)

variable {rule : ClaimRule} {files : List SourceFile}

/-! ### Claims and their sites -/

/-- A place as a list of numbers that are counted from zero: a file, a line of it, a run on the line
and a match in the run. -/
abbrev Site := List Nat

/-- At a site of some files there is a match whose first group took part; it claims the text of the
group. -/
inductive ClaimsAt (rule : ClaimRule) (files : List SourceFile) : Site → Claim → Prop where
  | intro {i j k l : Nat} {file : SourceFile} {runs : List Run} {run : Run} {m : Regex.Match}
      {capability : List Char} (isFile : files[i]? = some file)
      (selected : rule.files = [] ∨ ∃ glob ∈ rule.files, glob.admits file.path = true)
      (isLine : (file.scanned.lineRuns rule.region)[j]? = some runs) (isRun : runs[k]? = some run)
      (isMatch : (rule.matcher.findAll run.text)[l]? = some m)
      (takesPart : m.group? 1 = some capability) :
    ClaimsAt rule files [i, j, k, l]
      ⟨String.ofList capability, file.path, j + 1, String.ofList m.matched⟩

/-- A path other than that of the claim claims the same capability. -/
def Rival (rule : ClaimRule) (files : List SourceFile) (claim : Claim) (path : String) : Prop :=
  path ≠ claim.file ∧ ∃ site other, rule.ClaimsAt files site other ∧
    other.capability = claim.capability ∧ other.file = path

/-- Another path claims the same capability. -/
def Contested (rule : ClaimRule) (files : List SourceFile) (claim : Claim) : Prop :=
  ∃ path, rule.Rival files claim path

/-- A violation reports a claim: with its file, line and text, and with all its rivals, in the order
of their bytes. -/
def Reports (rule : ClaimRule) (files : List SourceFile) (claim : Claim) (violation : Violation) :
    Prop :=
  ∃ rivals : List String, (rivals.map bytesOf).Pairwise (· < ·) ∧
    (∀ path, path ∈ rivals ↔ rule.Rival files claim path) ∧
    violation = {
      ruleId := rule.id
      file := claim.file
      line := claim.line
      message := rule.message ++ " ('" ++ claim.capability ++ "' also claimed by "
        ++ ", ".intercalate rivals ++ ")"
      snippet := some claim.text }

/-! ### Numbering -/

section Numbering

variable {α β : Type} {items : List α} {collect : Nat → α → List (Site × β)}

/-- What is collected from items, with the number of the item in front of each site. -/
def numbered (items : List α) (collect : Nat → α → List (Site × β)) : List (Site × β) :=
  items.zipIdx.flatMap fun (item, i) => (collect i item).map fun (site, b) => (i :: site, b)

theorem mem_numbered_iff {site : Site} {b : β} : (site, b) ∈ numbered items collect ↔
    ∃ i item rest, items[i]? = some item ∧ site = i :: rest ∧ (rest, b) ∈ collect i item := by
  rw [numbered, List.mem_flatMap]
  constructor
  · rintro ⟨⟨item, i⟩, known, mem⟩
    obtain ⟨⟨rest, b⟩, here, same⟩ := List.mem_map.mp mem
    cases same
    exact ⟨i, item, rest, List.mem_zipIdx_iff_getElem?.mp known, rfl, here⟩
  · rintro ⟨i, item, rest, known, rfl, here⟩
    exact ⟨(item, i), List.mem_zipIdx_iff_getElem?.mpr known, List.mem_map.mpr ⟨_, here, rfl⟩⟩

/-- Sites that are in order for every item are in order for all. -/
theorem pairwise_numbered
    (ordered : ∀ i item, (collect i item).Pairwise fun a b => a.1 < b.1) :
    (numbered items collect).Pairwise fun a b => a.1 < b.1 := by
  rw [numbered, List.pairwise_flatMap]
  constructor
  · rintro ⟨item, i⟩ -
    rw [List.pairwise_map]
    exact (ordered i item).imp fun less => List.cons_lt_cons_iff.mpr (Or.inr ⟨rfl, less⟩)
  · have numbers : items.zipIdx.Pairwise fun a b => a.2 < b.2 := by
      rw [← List.pairwise_map, List.zipIdx_map_snd]
      exact List.pairwise_lt_range' 1
    refine numbers.imp ?_
    intro a b less x first y second
    obtain ⟨_, -, rfl⟩ := List.mem_map.mp first
    obtain ⟨_, -, rfl⟩ := List.mem_map.mp second
    exact List.cons_lt_cons_iff.mpr (Or.inl less)

theorem map_snd_numbered : (numbered items collect).map Prod.snd =
    items.zipIdx.flatMap fun (item, i) => (collect i item).map Prod.snd := by
  rw [numbered, List.map_flatMap]
  apply List.flatMap_congr
  intro item _
  rw [List.map_map]
  rfl

/-- Where the numbers make no difference they can be left out. -/
theorem map_snd_numbered_of_plain {plain : α → List β}
    (same : ∀ i item, (collect i item).map Prod.snd = plain item) :
    (numbered items collect).map Prod.snd = items.flatMap plain := by
  have whole : (fun item : α × Nat => (collect item.2 item.1).map Prod.snd) =
      fun item => plain item.1 := by
    funext item
    exact same item.2 item.1
  calc (numbered items collect).map Prod.snd
      = items.zipIdx.flatMap fun item => plain item.1 := by rw [map_snd_numbered, whole]
    _ = (items.zipIdx.map Prod.fst).flatMap plain := (List.flatMap_map _ _ _).symm
    _ = items.flatMap plain := by rw [List.zipIdx_map_fst]

end Numbering

/-! ### All claims with their sites -/

/-- The claims of a run with their sites in it. -/
def locatedInRun (rule : ClaimRule) (path : String) (line : Nat) (run : Run) :
    List (Site × Claim) :=
  numbered (rule.matcher.findAll run.text) fun _ m =>
    ((claim? path line m).map fun claim => ([], claim)).toList

/-- The claims of a file with their sites in it. -/
def locatedIn (rule : ClaimRule) (file : SourceFile) : List (Site × Claim) :=
  numbered (file.scanned.lineRuns rule.region) fun j runs =>
    numbered runs fun _ run => rule.locatedInRun file.path (j + 1) run

/-- All claims with their sites. -/
def located (rule : ClaimRule) (files : List SourceFile) : List (Site × Claim) :=
  numbered files fun _ file => if rule.appliesTo file.path then rule.locatedIn file else []

theorem appliesTo_iff {path : String} : rule.appliesTo path = true ↔
    rule.files = [] ∨ ∃ glob ∈ rule.files, glob.admits path = true := by
  rw [appliesTo, Bool.or_eq_true, List.isEmpty_iff, Glob.anyAdmits, List.any_eq_true]

/-- The located claims are the claims at their sites. -/
theorem mem_located_iff {site : Site} {claim : Claim} :
    (site, claim) ∈ rule.located files ↔ rule.ClaimsAt files site claim := by
  rw [located, mem_numbered_iff]
  constructor
  · rintro ⟨i, file, inFile, isFile, rfl, memFile⟩
    split at memFile
    · next selected =>
      -- From the outside in: the line, the run on the line, the match in the run.
      rw [locatedIn, mem_numbered_iff] at memFile
      obtain ⟨j, runs, onLine, isLine, rfl, memLine⟩ := memFile
      rw [mem_numbered_iff] at memLine
      obtain ⟨k, run, inRun, isRun, rfl, memRun⟩ := memLine
      rw [locatedInRun, mem_numbered_iff] at memRun
      obtain ⟨l, m, inMatch, isMatch, rfl, memMatch⟩ := memRun
      obtain ⟨found, claims, same⟩ := Option.map_eq_some_iff.mp (Option.mem_toList.mp memMatch)
      cases same
      obtain ⟨capability, takesPart, rfl⟩ := Option.map_eq_some_iff.mp claims
      exact .intro isFile (appliesTo_iff.mp selected) isLine isRun isMatch takesPart
    · cases memFile
  · rintro ⟨isFile, selected, isLine, isRun, isMatch, takesPart⟩
    refine ⟨_, _, _, isFile, rfl, ?_⟩
    rw [if_pos (appliesTo_iff.mpr selected)]
    refine mem_numbered_iff.mpr ⟨_, _, _, isLine, rfl, ?_⟩
    refine mem_numbered_iff.mpr ⟨_, _, _, isRun, rfl, ?_⟩
    refine mem_numbered_iff.mpr ⟨_, _, _, isMatch, rfl, ?_⟩
    rw [claim?, takesPart]
    exact List.mem_singleton.mpr rfl

/-- The sites of all claims are in strictly increasing order. -/
theorem pairwise_located (rule : ClaimRule) (files : List SourceFile) :
    (rule.located files).Pairwise fun a b => a.1 < b.1 := by
  apply pairwise_numbered
  intro _ file
  split
  · refine pairwise_numbered fun j runs => pairwise_numbered fun _ run => ?_
    apply pairwise_numbered
    intro _ m
    cases claim? file.path (j + 1) m <;> simp
  · exact List.Pairwise.nil

theorem flatMap_filter_eq {α β : Type} (keep : α → Bool) (collect : α → List β) (items : List α) :
    (items.filter keep).flatMap collect =
      items.flatMap fun item => if keep item then collect item else [] := by
  induction items with
  | nil => rfl
  | cons item items ih =>
    rw [List.filter_cons, List.flatMap_cons, ← ih]
    split <;> rfl

/-- Without their sites they are the claims that the rule collects. -/
theorem map_snd_located (rule : ClaimRule) (files : List SourceFile) :
    (rule.located files).map Prod.snd = rule.claims files := by
  have inRun (path : String) (line : Nat) (run : Run) :
      (rule.locatedInRun path line run).map Prod.snd =
        (rule.matcher.findAll run.text).filterMap (claim? path line) := by
    rw [locatedInRun, List.filterMap_eq_flatMap_toList]
    apply map_snd_numbered_of_plain
    intro _ m
    cases claim? path line m <;> rfl
  have inFile (file : SourceFile) : (rule.locatedIn file).map Prod.snd = rule.claimsOf file := by
    rw [locatedIn, map_snd_numbered, claimsOf, List.zipIdx_succ, List.flatMap_map]
    apply List.flatMap_congr
    intro line _
    exact map_snd_numbered_of_plain fun _ run => inRun _ _ run
  rw [located, claims, flatMap_filter_eq]
  apply map_snd_numbered_of_plain
  intro _ file
  rw [← inFile file, apply_ite (List.map Prod.snd)]
  rfl

theorem mem_claims_iff {claim : Claim} :
    claim ∈ rule.claims files ↔ ∃ site, rule.ClaimsAt files site claim := by
  rw [← map_snd_located, List.mem_map]
  constructor
  · rintro ⟨⟨site, claim⟩, mem, rfl⟩
    exact ⟨site, mem_located_iff.mp mem⟩
  · rintro ⟨site, claims⟩
    exact ⟨_, mem_located_iff.mpr claims, rfl⟩

/-! ### What is reported -/

/-- The other paths among some claims to the capability of a claim. -/
def rivalsOf (claims : List Claim) (claim : Claim) : List String :=
  (Text.sortedSet ((claims.filter (·.capability == claim.capability)).map (·.file))).filter
    (· ≠ claim.file)

theorem mem_rivalsOf_iff {claim : Claim} {path : String} :
    path ∈ rivalsOf (rule.claims files) claim ↔ rule.Rival files claim path := by
  rw [rivalsOf, List.mem_filter, Text.mem_sortedSet, List.mem_map, decide_eq_true_eq, and_comm]
  refine and_congr_right fun _ => ?_
  constructor
  · rintro ⟨other, mem, rfl⟩
    obtain ⟨known, same⟩ := List.mem_filter.mp mem
    obtain ⟨site, claims⟩ := mem_claims_iff.mp known
    exact ⟨site, other, claims, beq_iff_eq.mp same, rfl⟩
  · rintro ⟨site, other, claims, same, rfl⟩
    exact ⟨other, List.mem_filter.mpr ⟨mem_claims_iff.mpr ⟨site, claims⟩, beq_iff_eq.mpr same⟩, rfl⟩

/-- There is a rival exactly when the claim is contested. -/
theorem isEmpty_rivalsOf_eq_false_iff {claim : Claim} :
    (rivalsOf (rule.claims files) claim).isEmpty = false ↔ rule.Contested files claim := by
  rw [List.isEmpty_eq_false_iff_exists_mem]
  exact exists_congr fun _ => mem_rivalsOf_iff

/-- The violation for a claim. -/
def report (rule : ClaimRule) (claims : List Claim) (claim : Claim) : Violation :=
  let rivals := ", ".intercalate (rivalsOf claims claim)
  { Violation.onLine rule.id claim.file claim.line
      s!"{rule.message} ('{claim.capability}' also claimed by {rivals})" with
    snippet := some claim.text }

/-- What is written for a claim reports it. -/
theorem reports_report {site : Site} {claim : Claim} (claims : rule.ClaimsAt files site claim) :
    rule.Reports files claim (rule.report (rule.claims files) claim) := by
  refine ⟨rivalsOf (rule.claims files) claim, ?_, fun path => mem_rivalsOf_iff, ?_⟩
  · rw [List.pairwise_map]
    refine ((Text.pairwise_lt_sortedSet _).filter _).imp fun less => ?_
    exact Text.bytesOf_lt_bytesOf_iff.mpr less
  · have counted : max claim.line 1 = claim.line := by
      cases claims
      exact Nat.max_eq_left (Nat.le_add_left _ _)
    rw [report, Violation.onLine, counted]
    rfl

/-- Without repetitions, all items are one exactly when there are not two. -/
theorem filter_ne_eq_nil_iff {items : List String} (distinct : items.Nodup) {item : String}
    (mem : item ∈ items) : items.filter (· ≠ item) = [] ↔ items.length < 2 := by
  have others : (items.filter (· ≠ item)).length = items.length - 1 := by
    rw [← List.length_erase_of_mem mem, distinct.erase_eq_filter]
    exact congrArg _ (List.filter_congr fun other _ => by grind)
  rw [← List.length_eq_zero_iff, others]
  omega

/-- Whether a claim is to a capability for which it has rivals among some claims. -/
def isReported (claims : List Claim) (capability : String) (claim : Claim) : Bool :=
  claim.capability == capability && ! (rivalsOf claims claim).isEmpty

/-- A claim of a capability is reported if the same is claimed in another file. -/
theorem isReported_eq (claims : List Claim) (capability : String) :
    isReported claims capability = fun claim => claim.capability == capability &&
      claims.any fun other => other.capability == claim.capability && other.file != claim.file := by
  funext claim
  rw [isReported]
  congr 1
  rw [Bool.eq_iff_iff, Bool.not_eq_true', List.isEmpty_eq_false_iff_exists_mem, List.any_eq_true]
  simp only [rivalsOf, List.mem_filter, Text.mem_sortedSet, List.mem_map, Bool.and_eq_true,
    bne_iff_ne, decide_eq_true_eq]
  constructor
  · rintro ⟨_, ⟨other, ⟨known, same⟩, rfl⟩, apart⟩
    exact ⟨other, known, same, apart⟩
  · rintro ⟨other, known, same, apart⟩
    exact ⟨other.file, ⟨other, ⟨known, same⟩, rfl⟩, apart⟩

theorem isReported_iff {capability : String} {claim : Claim} :
    isReported (rule.claims files) capability claim = true ↔
      claim.capability = capability ∧ rule.Contested files claim := by
  rw [isReported, Bool.and_eq_true, beq_iff_eq, Bool.not_eq_true', isEmpty_rivalsOf_eq_false_iff]

/-- What is reported for a capability.  The paths that claim it are counted once for all claims to
it; a claim has no rivals exactly when there is one such path, its own. -/
theorem conflicts_eq (rule : ClaimRule) (claims : List Claim) (capability : String) :
    rule.conflicts capability (claims.filter (·.capability == capability)) =
      (claims.filter (isReported claims capability)).map (rule.report claims) := by
  set same := claims.filter (·.capability == capability) with isSame
  have rivals (claim : Claim) (mem : claim ∈ same) : claim.capability = capability ∧
      rivalsOf claims claim = (Text.sortedSet (same.map (·.file))).filter (· ≠ claim.file) := by
    have equal : claim.capability = capability := beq_iff_eq.mp (List.mem_filter.mp mem).2
    exact ⟨equal, by rw [rivalsOf, equal]⟩
  have alone (claim : Claim) (mem : claim ∈ same) : rivalsOf claims claim = [] ↔
      (Text.sortedSet (same.map (·.file))).length < 2 := by
    rw [(rivals claim mem).2]
    refine filter_ne_eq_nil_iff (Text.nodup_sortedSet _) ?_
    exact Text.mem_sortedSet.mpr (List.mem_map.mpr ⟨claim, mem, rfl⟩)
  have inTwo : claims.filter (isReported claims capability) =
      same.filter fun claim => ! (rivalsOf claims claim).isEmpty := by
    rw [isSame, List.filter_filter]
    exact List.filter_congr fun claim _ => Bool.and_comm _ _
  rw [inTwo, conflicts]
  split
  · next few =>
    have none : same.filter (fun claim => ! (rivalsOf claims claim).isEmpty) = [] := by
      apply List.filter_eq_nil_iff.mpr
      intro claim mem
      rw [(alone claim mem).mpr few]
      decide
    rw [none, List.map_nil]
  · next many =>
    have all : same.filter (fun claim => ! (rivalsOf claims claim).isEmpty) = same := by
      apply List.filter_eq_self.mpr
      intro claim mem
      rw [Bool.not_eq_true', List.isEmpty_eq_false_iff]
      exact mt (alone claim mem).mp many
    rw [all]
    apply List.map_congr_left
    intro claim mem
    rw [report, (rivals claim mem).2, (rivals claim mem).1]

/-! ### The report -/

/-- The located claims that are reported, in the order of the report. -/
def reported (rule : ClaimRule) (files : List SourceFile) : List (Site × Claim) :=
  (Text.sortedSet ((rule.claims files).map (·.capability))).flatMap fun capability =>
    (rule.located files).filter fun item => isReported (rule.claims files) capability item.2

/-- The reported claims are the contested ones. -/
theorem mem_reported_iff {site : Site} {claim : Claim} :
    (site, claim) ∈ rule.reported files ↔
      rule.ClaimsAt files site claim ∧ rule.Contested files claim := by
  simp only [reported, List.mem_flatMap, List.mem_filter, mem_located_iff, isReported_iff]
  constructor
  · rintro ⟨capability, -, claims, -, contested⟩
    exact ⟨claims, contested⟩
  · rintro ⟨claims, contested⟩
    refine ⟨claim.capability, ?_, claims, rfl, contested⟩
    exact Text.mem_sortedSet.mpr (List.mem_map_of_mem (mem_claims_iff.mpr ⟨site, claims⟩))

/-- The report goes through the capabilities in order, and for each through the sites. -/
theorem pairwise_reported (rule : ClaimRule) (files : List SourceFile) :
    (rule.reported files).Pairwise fun a b =>
      bytesOf a.2.capability < bytesOf b.2.capability ∨
        a.2.capability = b.2.capability ∧ a.1 < b.1 := by
  have capabilityOf {capability : String} {item : Site × Claim}
      (mem : item ∈ (rule.located files).filter fun item =>
        isReported (rule.claims files) capability item.2) : item.2.capability = capability :=
    (isReported_iff.mp (List.mem_filter.mp mem).2).1
  rw [reported, List.pairwise_flatMap]
  constructor
  · intro capability _
    refine List.Pairwise.imp_of_mem (fun memA memB less => Or.inr ⟨?_, less⟩)
      ((pairwise_located rule files).filter _)
    rw [capabilityOf memA, capabilityOf memB]
  · refine (Text.pairwise_lt_sortedSet _).imp fun less a memA b memB => Or.inl ?_
    rw [capabilityOf memA, capabilityOf memB]
    exact Text.bytesOf_lt_bytesOf_iff.mpr less

/-- The violations are the reports of the reported claims. -/
theorem run_eq (rule : ClaimRule) (files : List SourceFile) :
    rule.run files =
      (rule.reported files).map fun item => rule.report (rule.claims files) item.2 := by
  rw [run, reported, List.map_flatMap]
  apply List.flatMap_congr
  intro capability _
  have sites : (rule.claims files).filter (isReported (rule.claims files) capability) =
      ((rule.located files).filter fun item =>
        isReported (rule.claims files) capability item.2).map Prod.snd := by
    conv_lhs => arg 2; rw [← map_snd_located]
    rw [List.filter_map]
    rfl
  rw [conflicts_eq, sites, List.map_map]
  rfl

/-- **What claim rules report.**  For any rule and any files there is a list of claims at their
sites that holds exactly the contested ones; it is in strictly increasing order of capability and,
within a capability, of site, so that it holds none of them twice; and the violations are, one for
one, reports of the claims on the list. -/
theorem run_exact (rule : ClaimRule) (files : List SourceFile) :
    ∃ claims : List (Site × Claim),
      (∀ site claim, (site, claim) ∈ claims ↔
        rule.ClaimsAt files site claim ∧ rule.Contested files claim) ∧
      claims.Pairwise (fun a b => bytesOf a.2.capability < bytesOf b.2.capability ∨
        a.2.capability = b.2.capability ∧ a.1 < b.1) ∧
      List.Forall₂ (fun item violation => rule.Reports files item.2 violation) claims
        (rule.run files) := by
  refine ⟨rule.reported files, fun site claim => mem_reported_iff, pairwise_reported rule files, ?_⟩
  rw [run_eq, List.forall₂_map_right_iff, List.forall₂_same]
  rintro ⟨site, claim⟩ mem
  exact reports_report (mem_reported_iff.mp mem).1

end QualityGate.ClaimRule
