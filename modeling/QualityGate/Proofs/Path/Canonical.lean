import QualityGate.Proofs.Manifest.Freshness

/-!
# One text for every path

The normal form of a path keeps its significant pieces and nothing else, so it is one text for all
spellings of a path.

* `normalize_eq_self_iff` – the texts that are their own normal form: the empty one, and those whose
  pieces are all significant.
* `normalize_eq_iff` – two texts have one normal form exactly when they have the same significant
  pieces.
* `normalize_canonical` – both, together with what manifests rely on: validation never objects to
  the spelling of a path that was computed.

### What is load-bearing

Joining forgets the empty list of pieces, which is the one place where a normal form, the empty
text, has a piece that is not significant.
-/

namespace QualityGate

namespace Path

open QualityGate.Text

/-- A text that is not empty and joins its significant pieces has no other pieces. -/
theorem splitOn_eq_significant {path : List Char} (some : path ≠ [])
    (joins : joinWith ['/'] (significant path) = path) : splitOn '/' path = significant path := by
  have pieces : significant path ≠ [] := by
    intro nothing
    rw [nothing] at joins
    exact some joins.symm
  have cut := splitOn_joinWith pieces fun _ => slash_notMem_of_mem_significant
  rwa [joins] at cut

theorem normalizeChars_eq_self_iff {path : List Char} :
    normalizeChars path = path ↔
      path = [] ∨ ∀ piece ∈ splitOn '/' path, isSignificant piece = true := by
  rw [normalizeChars_eq]
  constructor
  · intro joins
    refine or_iff_not_imp_left.mpr fun some piece mem => ?_
    rw [splitOn_eq_significant some joins] at mem
    exact (List.mem_filter.mp mem).2
  · rintro (rfl | all)
    · rfl
    · rw [significant, List.filter_eq_self.mpr all, joinWith_splitOn]

theorem normalize_eq_self_iff {path : String} :
    normalize path = path ↔
      path = "" ∨ ∀ piece ∈ splitOn '/' path.toList, piece ≠ [] ∧ piece ≠ ['.'] := by
  rw [normalize, ← String.toList_inj, String.toList_ofList, normalizeChars_eq_self_iff,
    ← String.toList_inj]
  simp [isSignificant]

/-- The normal form tells apart what differs in a significant piece, and nothing else. -/
theorem normalize_eq_iff {path other : String} :
    normalize path = normalize other ↔
      significant path.toList = significant other.toList := by
  rw [normalize, normalize, String.ofList_inj]
  constructor
  · intro same
    rw [← significant_normalizeChars, same, significant_normalizeChars]
  · intro same
    rw [normalizeChars_eq, normalizeChars_eq, same]

end Path

namespace Manifest

variable {algorithm : Algorithm} {path : String}

/-- The check of the entries objects only to a path of theirs that is not in normal form. -/
theorem of_entryProblem?_eq_pathNotNormal {seen : List String} {entries : List ManifestEntry}
    (objects : entryProblem? algorithm seen entries = some (.pathNotNormal path)) :
    path ∈ entries.map (·.path) ∧ (Path.normalize path ≠ path ∨ path = "") := by
  induction entries generalizing seen with
  | nil => cases objects
  | cons entry entries ih =>
    rw [entryProblem?] at objects
    split at objects
    · next spelled =>
      cases objects
      exact ⟨List.mem_cons_self, by simpa using spelled⟩
    · split at objects
      · cases objects
      · split at objects
        · cases objects
        · exact ⟨List.mem_cons_of_mem _ (ih objects).1, (ih objects).2⟩

theorem of_problem?_eq_pathNotNormal {manifest : Manifest}
    (objects : manifest.problem? = some (.pathNotNormal path)) :
    path ∈ manifest.files.map (·.path) ∧ (Path.normalize path ≠ path ∨ path = "") := by
  rw [problem?] at objects
  -- Only the check of the entries can find a path that is not in normal form.
  split at objects
  · cases objects
  · split at objects
    · cases objects
    · split at objects
      · next problem found =>
        cases objects
        exact of_entryProblem?_eq_pathNotNormal found
      · split at objects
        · cases objects
        · split at objects <;> cases objects

/-- What is computed has paths in normal form, whatever the name of the unit. -/
theorem normal_of_compute {read : Reader} {unit : String} {files : List String}
    {now : Time.Instant} {manifest : Manifest}
    (computed : compute read unit files algorithm now = .ok manifest)
    (mem : path ∈ manifest.files.map (·.path)) : Path.normalize path = path ∧ path ≠ "" := by
  obtain ⟨-, readable, rfl⟩ := compute_eq_ok_iff.mp computed
  rw [map_path_ofReadable readable] at mem
  exact ⟨normalize_of_mem_normalSet mem, (mem_normalSet_iff.mp mem).1⟩

end Manifest

/-- **Normal forms are canonical.**  The normal form of a path is the join of its significant
pieces, those between slashes that are neither empty nor a dot.  It is its own normal form; the
other texts that are their own are those with significant pieces only; and another text has the
same one exactly when it has the same significant pieces.  So validation does not object to the
spelling of a path in a manifest that was computed. -/
theorem Path.normalize_canonical (path : String) :
    normalize path = String.ofList (Text.joinWith ['/']
      ((Text.splitOn '/' path.toList).filter fun piece => piece ≠ [] ∧ piece ≠ ['.'])) ∧
    normalize (normalize path) = normalize path ∧
    (normalize path = path ↔
      path = "" ∨ ∀ piece ∈ Text.splitOn '/' path.toList, piece ≠ [] ∧ piece ≠ ['.']) ∧
    (∀ other, normalize other = normalize path ↔
      significant other.toList = significant path.toList) ∧
    ∀ read unit files algorithm now manifest,
      Manifest.compute read unit files algorithm now = .ok manifest →
        (∀ entry ∈ manifest.files, normalize entry.path = entry.path ∧ entry.path ≠ "") ∧
          ∀ problem, manifest.problem? ≠ some (.pathNotNormal problem) := by
  refine ⟨?_, normalize_normalize path, normalize_eq_self_iff, fun other => normalize_eq_iff, ?_⟩
  · rw [normalize, normalizeChars_eq]
    rfl
  · intro read unit files algorithm now manifest computed
    have normal {path : String} (mem : path ∈ manifest.files.map (·.path)) :
        normalize path = path ∧ path ≠ "" := Manifest.normal_of_compute computed mem
    refine ⟨fun entry mem => normal (List.mem_map_of_mem mem), fun path objects => ?_⟩
    obtain ⟨mem, spelled | empty⟩ := Manifest.of_problem?_eq_pathNotNormal objects
    · exact spelled (normal mem).1
    · exact (normal mem).2 empty

/-- Two spellings of a path that goes through its parent directory have one normal form, and a
manifest computed for the first one holds that. -/
theorem Path.normalize_canonical_parent :
    normalize ".//a/./../b/" = normalize "a/..//b" ∧
      ∃ manifest, Manifest.compute Manifest.emptyFiles "u" [".//a/./../b/"] .sha256 ⟨0, 0⟩
          = .ok manifest ∧
        (∀ entry ∈ manifest.files, normalize entry.path = entry.path ∧ entry.path ≠ "") ∧
        ∀ problem, manifest.problem? ≠ some (.pathNotNormal problem) := by
  obtain ⟨-, -, -, spellings, emitted⟩ := normalize_canonical "a/..//b"
  have known : "a/../b" ∈ Manifest.normalSet [".//a/./../b/"] :=
    Manifest.mem_normalSet_iff.mpr (by decide +kernel)
  have computed : Manifest.compute Manifest.emptyFiles "u" [".//a/./../b/"] .sha256 ⟨0, 0⟩
      = .ok (.ofReadable Manifest.emptyFiles "u" [".//a/./../b/"] .sha256 ⟨0, 0⟩) :=
    Manifest.compute_eq_ok_iff.mpr ⟨List.ne_nil_of_mem known, fun _ _ => ⟨[], rfl⟩, rfl⟩
  exact ⟨(spellings _).mpr (by decide), _, computed, emitted _ _ _ _ _ _ computed⟩

end QualityGate
