import QualityGate.Proofs.Config.Building
import QualityGate.Proofs.Text.Order

/-!
# Which files a lint stage is narrowed to

Narrowing depends on two things that are asked of the ports: which paths have changed, if that is
known, and which paths are files.

* `Stage.LooksAt` – the paths that the globs of a stage match, all paths when it has none.
* `Stage.Narrowed` – the files that a stage is narrowed to, or nothing when it looks at the whole
  tree: the changed files that it looks at, in order, unless there are none or they are not known.
* `Stage.narrowed_narrowing` – changed-only mode chooses exactly these.

### What is load-bearing

A stage is narrowed to nothing but a list with something in it, so the two ways of looking at the
whole tree, changes that are not known and no changes to look at, are one.
-/

namespace QualityGate

variable {stage : Stage} {globs : List Glob} {diff : Option (List String)} {isFile : String → Bool}

/-- The globs of the stage match the path; without any the stage looks at all paths. -/
def Stage.LooksAt (stage : Stage) (path : String) : Prop :=
  stage.files = [] ∨ ∃ text ∈ stage.files, ∃ glob, Glob.ofString text = .ok glob ∧
    glob.admits path = true

namespace Glob

variable {texts : List String}

theorem exists_of_ofStrings_cons {text : String}
    (compiled : ofStrings (text :: texts) = .ok globs) :
    ∃ first others, ofString text = .ok first ∧ ofStrings texts = .ok others ∧
      globs = first :: others := by
  rw [ofStrings, List.mapM_cons] at compiled
  obtain ⟨first, read, compiled⟩ := exists_of_bind_eq_ok compiled
  obtain ⟨others, later, ⟨⟩⟩ := exists_of_bind_eq_ok compiled
  exact ⟨first, others, read, later, rfl⟩

/-- The globs are those of the texts. -/
theorem mem_ofStrings_iff (compiled : ofStrings texts = .ok globs) {glob : Glob} :
    glob ∈ globs ↔ ∃ text ∈ texts, ofString text = .ok glob := by
  induction texts generalizing globs with
  | nil =>
    cases compiled
    simp
  | cons text texts ih =>
    obtain ⟨first, others, read, later, rfl⟩ := exists_of_ofStrings_cons compiled
    rw [List.mem_cons, ih later, List.exists_mem_cons_iff, read, Except.ok.injEq, eq_comm]

theorem ofStrings_eq_nil_iff (compiled : ofStrings texts = .ok globs) :
    globs = [] ↔ texts = [] := by
  cases texts with
  | nil =>
    cases compiled
    simp
  | cons text texts =>
    obtain ⟨first, others, -, -, rfl⟩ := exists_of_ofStrings_cons compiled
    simp

end Glob

theorem Stage.looksAt_iff (compiled : Glob.ofStrings stage.files = .ok globs) {path : String} :
    stage.LooksAt path ↔ (globs.isEmpty || Glob.anyAdmits globs path) = true := by
  rw [LooksAt, Bool.or_eq_true, List.isEmpty_iff, Glob.ofStrings_eq_nil_iff compiled,
    Glob.anyAdmits, List.any_eq_true]
  refine or_congr_right ⟨?_, ?_⟩
  · rintro ⟨text, mem, glob, read, admits⟩
    exact ⟨glob, (Glob.mem_ofStrings_iff compiled).mpr ⟨text, mem, read⟩, admits⟩
  · rintro ⟨glob, mem, admits⟩
    obtain ⟨text, mem, read⟩ := (Glob.mem_ofStrings_iff compiled).mp mem
    exact ⟨text, mem, glob, read, admits⟩

/-- The files that a stage is narrowed to, if it is, when these are the changes and these paths are
files. -/
inductive Stage.Narrowed (stage : Stage) (isFile : String → Bool) :
    Option (List String) → Option (List String) → Prop where
  /-- The changed files that the stage looks at, each once and in order. -/
  | toFiles {paths files : List String} (nonempty : files ≠ [])
      (ordered : files.Pairwise (· < ·))
      (exact : ∀ path, path ∈ files ↔
        path ∈ paths ∧ isFile path = true ∧ stage.LooksAt path) :
    Narrowed stage isFile (some paths) (some files)
  /-- The stage looks at none of the changed files. -/
  | nothing {paths : List String}
      (empty : ∀ path ∈ paths, isFile path = true → ¬ stage.LooksAt path) :
    Narrowed stage isFile (some paths) none
  /-- The changes are not known. -/
  | unknown : Narrowed stage isFile none none

/-- What changed-only mode makes of these answers. -/
def Stage.narrowing (stage : Stage) (diff : Option (List String)) (isFile : String → Bool) :
    FileSelection :=
  .narrow .changedOnly (diff.map (·.filter isFile))
    ((Glob.ofStrings stage.files).toOption.getD [])

theorem Stage.narrowing_eq (compiled : Glob.ofStrings stage.files = .ok globs) :
    stage.narrowing diff isFile = .narrow .changedOnly (diff.map (·.filter isFile)) globs := by
  rw [narrowing, compiled]
  rfl

theorem Stage.narrowed_narrowing (compiled : Glob.ofStrings stage.files = .ok globs) :
    stage.Narrowed isFile diff (stage.narrowing diff isFile).files? := by
  rw [narrowing_eq compiled]
  cases diff with
  | none => exact .unknown
  | some paths =>
    have exact (path : String) : path ∈ FileSelection.eligible (paths.filter isFile) globs ↔
        path ∈ paths ∧ isFile path = true ∧ stage.LooksAt path := by
      rw [FileSelection.eligible, Text.mem_sortedSet, List.mem_filter, List.mem_filter, and_assoc,
        looksAt_iff compiled]
    have ordered : (FileSelection.eligible (paths.filter isFile) globs).Pairwise (· < ·) :=
      Text.pairwise_lt_sortedSet _
    rw [Option.map_some, FileSelection.narrow]
    cases found : FileSelection.eligible (paths.filter isFile) globs with
    | nil =>
      refine .nothing fun path mem file looks => ?_
      have member := (exact path).mpr ⟨mem, file, looks⟩
      rw [found] at member
      cases member
    | cons file files =>
      rw [found] at exact ordered
      exact .toFiles (List.cons_ne_nil file files) ordered exact

end QualityGate
