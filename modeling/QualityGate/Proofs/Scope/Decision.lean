import QualityGate.Proofs.Run.Course
import QualityGate.Proofs.Text.Trim
import QualityGate.Project.Memory

/-!
# The decision about the secondary suite

Evidence is gathered from ports that may fail, and the decision is made from the evidence.  This
module says what the two come to: which calls are made, and how the answers decide.

* `ScopeAnswers` – an answer to every question that is asked.
* `ScopeAnswers.steps` – the steps by which the answers decide, in order; `FirstApplies` picks the
  first one whose condition holds.
* `ScopeAnswers.Urges` – the answers with which the suite runs.
* `RunContext.gather_decides` – every gathering of evidence has answers, and they decide as the
  steps say.  More changes or a lost marker never keep the suite from running.

### What is load-bearing

The evidence holds the instant of the marker as text again, and the decision looks whether that is
blank.  It never is (`Time.isBlankString_offsetText`), so a marker that denotes an instant and a
marker in the evidence are the same thing.
-/

namespace QualityGate

variable {suite : SecondarySuite}

/-! ### Tracked paths -/

namespace SecondarySuite

/-- A subtree as paths are compared with it: without `./` in front of it and slashes behind it. -/
def subtreeRoot (subtree : String) : List Char :=
  Text.dropWhileEnd (· == '/') (Text.dropCurrentDir subtree.toList)

/-- A path is a subtree of which something is left, or it goes on below one. -/
def Below (subtree path : String) : Prop :=
  subtreeRoot subtree ≠ [] ∧ (Text.dropCurrentDir path.toList = subtreeRoot subtree ∨
    ∃ rest, Text.dropCurrentDir path.toList = subtreeRoot subtree ++ '/' :: rest)

theorem isBelow_iff {subtree path : String} : isBelow subtree path = true ↔ Below subtree path := by
  rw [isBelow, Below, ← subtreeRoot]
  cases found : Text.stripPrefix? (subtreeRoot subtree) (Text.dropCurrentDir path.toList) with
  | none =>
    have apart (rest : List Char) :
        Text.dropCurrentDir path.toList ≠ subtreeRoot subtree ++ rest := by
      intro same
      rw [Text.stripPrefix?_eq_some_iff.mpr same] at found
      cases found
    refine iff_of_false Bool.false_ne_true fun ⟨_, below⟩ => ?_
    rcases below with same | ⟨rest, same⟩
    · exact apart [] (same.trans (List.append_nil _).symm)
    · exact apart _ same
  | some rest =>
    rw [Text.stripPrefix?_eq_some_iff.mp found, Bool.and_eq_true, Bool.not_eq_true',
      List.isEmpty_eq_false_iff]
    refine and_congr_right fun _ => ?_
    cases rest with
    | nil => simp
    | cons c rest => simp

theorem tracks_iff {path : String} :
    suite.tracks path = true ↔ ∃ subtree ∈ suite.trackedPrefixes, Below subtree path := by
  rw [tracks, List.any_eq_true]
  exact exists_congr fun _ => and_congr_right fun _ => isBelow_iff

end SecondarySuite

/-! ### Markers -/

/-- The marker is of no use: it cannot be read, there is none, it is blank, or what is left of it
after trimming is not an instant. -/
inductive Unusable : Except PortError (Option String) → Prop where
  | unreadable (error : PortError) : Unusable (.error error)
  | absent : Unusable (.ok none)
  | blank {text : String} (blank : Text.isBlankString text = true) : Unusable (.ok (some text))
  | malformed {text : String} (refused : Time.ofMarker? (Text.trimmed text) = none) :
    Unusable (.ok (some text))

/-- The other markers are those that denote an instant. -/
theorem unusable_iff {answer : Except PortError (Option String)} :
    Unusable answer ↔ markerOf answer = none := by
  constructor
  · intro unusable
    cases unusable with
    | unreadable error => rfl
    | absent => rfl
    | blank blank =>
      rw [Text.isBlankString, Text.isAllBlank_iff] at blank
      rw [markerOf, Text.trimmed, Text.trim, blank]
      rfl
    | malformed refused => exact refused
  · intro none
    cases answer with
    | error error => exact .unreadable error
    | ok stored =>
      cases stored with
      | none => exact .absent
      | some text => exact .malformed none

theorem Time.isBlankString_offsetText (instant : Time.Instant) :
    Text.isBlankString (Time.offsetText instant) = false := by
  rw [Text.isBlankString, Text.isAllBlank, List.all_eq_false]
  refine ⟨'T', ?_, by decide⟩
  simp [Time.offsetText, Time.textWith, Time.wholeText]

/-! ### Answers -/

/-- What the ports answer while evidence is gathered. -/
structure ScopeAnswers where
  changes : Except PortError (List String)
  marker : Except PortError (Option String)
  /-- Whether a tracked file is newer than the marker; nobody asks when the marker is of no use. -/
  newer : Option Bool
  present : Bool

namespace ScopeAnswers

/-- The calls with their answers, in order. -/
def calls (answers : ScopeAnswers) (suite : SecondarySuite) : List PortCall :=
  [.changedPaths answers.changes, .loadMarker answers.marker] ++
    (match markerOf answers.marker with
      | some since => [.anyModifiedAfter suite.trackedPrefixes since answers.newer]
      | none => []) ++
    [.dirExists suite.dir answers.present]

/-- The evidence that the answers amount to. -/
def evidence (answers : ScopeAnswers) : ScopeEvidence where
  suiteDirExists := answers.present
  changedPaths := answers.changes.toOption
  lastVerifiedAt := (markerOf answers.marker).map Time.offsetText
  anyNewer := (markerOf answers.marker).bind fun _ => answers.newer

/-- The changes are known and touch a tracked subtree. -/
def Touches (answers : ScopeAnswers) (suite : SecondarySuite) : Prop :=
  ∃ paths, answers.changes = .ok paths ∧
    ∃ path ∈ paths, ∃ subtree ∈ suite.trackedPrefixes, SecondarySuite.Below subtree path

/-- The answers with which the suite runs. -/
def Urges (answers : ScopeAnswers) (suite : SecondarySuite) : Prop :=
  answers.present = true ∧
    (answers.Touches suite ∨ Unusable answers.marker ∨
      (∃ since, markerOf answers.marker = some since) ∧ answers.newer = some true)

/-- The steps of the decision: when each of them applies, and what it decides. -/
def steps (answers : ScopeAnswers) (suite : SecondarySuite) : List (Prop × ScopeDecision) := [
  (answers.present = false, ⟨false, .noSuiteDir⟩),
  (answers.Touches suite, ⟨true, .diffTouchesTrackedPaths⟩),
  (Unusable answers.marker, ⟨true, .noBaseline⟩),
  (answers.newer = none, ⟨false, .freshnessUnknown⟩),
  (answers.newer = some true, ⟨true, .newerFiles⟩),
  (True, ⟨false, .upToDate⟩)]

theorem touchesTracked_iff {answers : ScopeAnswers} :
    answers.evidence.touchesTracked suite = true ↔ answers.Touches suite := by
  rw [ScopeEvidence.touchesTracked, evidence, Touches]
  cases answers.changes with
  | error error => simp [Except.toOption]
  | ok paths => simp [Except.toOption, SecondarySuite.tracks_iff]

theorem hasMarker_eq_false_iff {answers : ScopeAnswers} :
    answers.evidence.hasMarker = false ↔ Unusable answers.marker := by
  rw [ScopeEvidence.hasMarker, evidence, unusable_iff]
  cases markerOf answers.marker with
  | none => simp
  | some since => simp [Time.isBlankString_offsetText]

end ScopeAnswers

/-- What the first step decides whose condition holds. -/
inductive FirstApplies {α : Type} : List (Prop × α) → α → Prop where
  | here {condition : Prop} {a : α} {rest : List (Prop × α)} (holds : condition) :
    FirstApplies ((condition, a) :: rest) a
  | later {condition : Prop} {a b : α} {rest : List (Prop × α)} (fails : ¬ condition)
      (among : FirstApplies rest b) : FirstApplies ((condition, a) :: rest) b

theorem firstApplies_cons_iff {α : Type} {condition : Prop} {a b : α} {rest : List (Prop × α)} :
    FirstApplies ((condition, a) :: rest) b ↔
      condition ∧ b = a ∨ ¬ condition ∧ FirstApplies rest b := by
  constructor
  · rintro (holds | ⟨fails, among⟩)
    · exact Or.inl ⟨holds, rfl⟩
    · exact Or.inr ⟨fails, among⟩
  · rintro (⟨holds, rfl⟩ | ⟨fails, among⟩)
    · exact .here holds
    · exact .later fails among

namespace ScopeAnswers

variable {answers more : ScopeAnswers}

/-- The decision is that of the first step that applies. -/
theorem firstApplies_decide (answers : ScopeAnswers) (suite : SecondarySuite) :
    FirstApplies (answers.steps suite) (answers.evidence.decide suite) := by
  rw [ScopeEvidence.decide]
  split
  · next absent => exact .here (by simpa [evidence] using absent)
  · next present =>
    refine .later (by simpa [evidence] using present) ?_
    split
    · next touches => exact .here (touchesTracked_iff.mp touches)
    · next untouched =>
      refine .later (mt touchesTracked_iff.mpr untouched) ?_
      split
      · next unmarked => exact .here (hasMarker_eq_false_iff.mp (by simpa using unmarked))
      · next marked =>
        have usable : ¬ Unusable answers.marker := fun unusable =>
          marked (by simpa using hasMarker_eq_false_iff.mpr unusable)
        refine .later usable ?_
        -- The marker denotes an instant, so somebody asked whether files are newer.
        obtain ⟨since, found⟩ := Option.ne_none_iff_exists'.mp (mt unusable_iff.mpr usable)
        have asked : answers.evidence.anyNewer = answers.newer := by
          rw [evidence, found]
          rfl
        rw [asked]
        split
        · next unknown => exact .here unknown
        · next newer =>
          refine .later ?_ (.here newer)
          rw [newer]
          nofun
        · next older =>
          refine .later ?_ (.later ?_ (.here trivial)) <;> rw [older] <;> nofun

/-- The suite runs exactly when the answers speak for it. -/
theorem runs_iff : (answers.evidence.decide suite).runs = true ↔ answers.Urges suite := by
  have first := answers.firstApplies_decide suite
  generalize answers.evidence.decide suite = decision at first
  have nothing : ¬ FirstApplies [] decision := nofun
  have marked : Unusable answers.marker ∨ ∃ since, markerOf answers.marker = some since := by
    rw [unusable_iff, ← Option.ne_none_iff_exists']
    exact em _
  -- One case for every step, with what is known of the steps before it.
  simp only [steps, firstApplies_cons_iff, nothing, and_false, or_false, not_true_eq_false] at first
  rw [Urges]
  obtain ⟨absent, rfl⟩ | ⟨present, first⟩ := first
  · simp [absent]
  rw [Bool.not_eq_false] at present
  obtain ⟨touches, rfl⟩ | ⟨untouched, ⟨unusable, rfl⟩ | ⟨usable, first⟩⟩ := first
  · exact iff_of_true rfl ⟨present, Or.inl touches⟩
  · exact iff_of_true rfl ⟨present, Or.inr (Or.inl unusable)⟩
  obtain ⟨unknown, rfl⟩ | ⟨known, ⟨newer, rfl⟩ | ⟨older, -, rfl⟩⟩ := first
  · simp [untouched, usable, unknown]
  · exact iff_of_true rfl ⟨present, Or.inr (Or.inr ⟨marked.resolve_left usable, newer⟩)⟩
  · simp [untouched, usable, older]

/-- There is as much reason to run the suite: it has a directory, all changes that were known are
known, and the marker is the same or of no use. -/
structure Within (answers more : ScopeAnswers) : Prop where
  present : more.present = true
  changes : ∀ paths, answers.changes = .ok paths →
    ∃ others, more.changes = .ok others ∧ paths ⊆ others
  marker : more.marker = answers.marker ∧ more.newer = answers.newer ∨ Unusable more.marker

theorem Urges.of_within (urges : answers.Urges suite) (within : answers.Within more) :
    more.Urges suite := by
  obtain ⟨-, reason⟩ := urges
  refine ⟨within.present, ?_⟩
  rcases reason with ⟨paths, known, path, mem, tracked⟩ | reason
  · obtain ⟨others, known, all⟩ := within.changes paths known
    exact Or.inl ⟨others, known, path, all mem, tracked⟩
  · refine Or.inr ?_
    rcases within.marker with ⟨sameMarker, sameNewer⟩ | lost
    · rwa [sameMarker, sameNewer]
    · exact Or.inl lost

end ScopeAnswers

/-! ### Gathering -/

/-- **Evidence decides by the steps.**  Whatever the ports answer, gathering evidence about a suite
makes these calls and no others: it asks for the changes and the marker, only for a marker that
denotes an instant whether tracked files are newer than it, and for the directory.  The suite runs
exactly when the answers speak for it, and the reason is that of the first step that applies.  A
suite that runs does so with more changes and with a lost marker as well. -/
theorem RunContext.gather_decides {σ : Type} (ctx : RunContext σ) (suite : SecondarySuite) :
    Records (ctx.probe.gather suite) (ctx.recorded.probe.gather suite) (fun evidence calls =>
      ∃ answers : ScopeAnswers, evidence = answers.evidence ∧ calls = answers.calls suite) ∧
    ∀ answers : ScopeAnswers,
      ((answers.evidence.decide suite).runs = true ↔ answers.Urges suite) ∧
      FirstApplies (answers.steps suite) (answers.evidence.decide suite) ∧
      ∀ more, answers.Within more → (answers.evidence.decide suite).runs = true →
        (more.evidence.decide suite).runs = true := by
  constructor
  · refine ctx.recorded_probeChangedPaths.bind fun changed asked asks => ?_
    cases asks with
    | asked changes =>
      refine (ctx.recorded_gatherWith suite changes.toOption).weaken fun _ _ gathers => ?_
      cases gathers with
      | @unmarked marker present missing =>
        refine ⟨⟨changes, marker, none, present⟩, ?_, ?_⟩
        · simp [ScopeAnswers.evidence, missing]
        · simp [ScopeAnswers.calls, missing]
      | @marked marker since newer present found =>
        refine ⟨⟨changes, marker, newer, present⟩, ?_, ?_⟩
        · simp [ScopeAnswers.evidence, found]
        · simp [ScopeAnswers.calls, found]
  · intro answers
    refine ⟨ScopeAnswers.runs_iff, answers.firstApplies_decide suite, fun more within runs => ?_⟩
    exact ScopeAnswers.runs_iff.mpr ((ScopeAnswers.runs_iff.mp runs).of_within within)

/-- A suite that is run because a file is newer than the marker is also run when a file that it does
not track changes, too, and the marker is lost. -/
theorem RunContext.gather_decides_lostMarker :
    let suite : SecondarySuite := { dir := "suite", command := "npm" }
    let answers : ScopeAnswers := ⟨.ok [], .ok (some "2025-01-01T00:00:00Z\n"), some true, true⟩
    let more : ScopeAnswers := ⟨.ok ["README.md"], .ok none, none, true⟩
    answers.evidence.decide suite = ⟨true, .newerFiles⟩ ∧
      (more.evidence.decide suite).runs = true := by
  intro suite answers more
  have newer : answers.evidence.decide suite = ⟨true, .newerFiles⟩ := by decide +kernel
  have within : answers.Within more :=
    ⟨rfl, fun paths known => ⟨_, rfl, by cases known; nofun⟩, Or.inr .absent⟩
  have decides := ((MemoryProject.context ⟨fun _ => pure .ok⟩ none 1 .full).gather_decides suite).2
  exact ⟨newer, (decides answers).2.2 more within (by rw [newer])⟩

end QualityGate
