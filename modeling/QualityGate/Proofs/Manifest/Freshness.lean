import QualityGate.Proofs.Manifest.Reliability
import QualityGate.Proofs.Path.Normal

/-!
# Fresh manifests

A manifest is computed from a set of files, whatever the list it is given in looks like.

* `SameFiles` says of two lists that they name the same files.
* `compute_cases` says what is computed: a manifest when there is a file and every file can be read,
  and otherwise an error, which names the first file that cannot be read if there is one.
* `compute_canonical` puts together what holds of a computed manifest: its entries are in order and
  one for every file, validation finds nothing wrong with it, and the comparison with any list that
  names the same files accepts it.

### What is load-bearing

Computing and comparing look at the list only through the set of its normal forms (`normalSet`), and
a normal form is its own normal form, so what was computed is what is compared with.
-/

namespace QualityGate.Manifest

variable {read : Reader} {unit : String} {files others paths : List String} {algorithm : Algorithm}
  {now : Time.Instant} {manifest : Manifest}

/-! ### The set of files -/

/-- The lists name the same files: they have the same normal forms, the empty one apart. -/
def SameFiles (files others : List String) : Prop :=
  ∀ path ≠ "", path ∈ files.map Path.normalize ↔ path ∈ others.map Path.normalize

theorem mem_normalSet_iff {path : String} :
    path ∈ normalSet files ↔ path ≠ "" ∧ path ∈ files.map Path.normalize := by
  rw [normalSet, Text.mem_sortedSet, List.mem_filter, decide_eq_true_eq, and_comm]

theorem normalSet_congr (same : SameFiles files others) : normalSet others = normalSet files := by
  refine Text.sortedSet_congr fun path => ?_
  rw [List.mem_filter, List.mem_filter, decide_eq_true_eq]
  exact and_congr_left fun nonempty => (same path nonempty).symm

/-- What is in the set is in normal form. -/
theorem normalize_of_mem_normalSet {path : String} (mem : path ∈ normalSet files) :
    Path.normalize path = path := by
  obtain ⟨other, -, rfl⟩ := List.mem_map.mp (mem_normalSet_iff.mp mem).2
  exact Path.normalize_normalize other

/-! ### What is computed -/

/-- Every one of some files can be read. -/
def Readable (read : Reader) (paths : List String) : Prop :=
  ∀ path ∈ paths, ∃ bytes, read path = .ok bytes

/-- Files can all be read, or there is a first one that cannot. -/
theorem readable_or_exists_unreadable (read : Reader) (paths : List String) :
    Readable read paths ∨ ∃ before path after error,
      paths = before ++ path :: after ∧ Readable read before ∧ read path = .error error := by
  induction paths with
  | nil => exact Or.inl nofun
  | cons path paths ih =>
    cases content : read path with
    | error error => exact Or.inr ⟨[], path, paths, error, rfl, nofun, content⟩
    | ok bytes =>
      rcases ih with all | ⟨before, other, after, error, rfl, earlier, unreadable⟩
      · exact Or.inl (List.forall_mem_cons.mpr ⟨⟨bytes, content⟩, all⟩)
      · refine Or.inr ⟨path :: before, other, after, error, rfl, ?_, unreadable⟩
        exact List.forall_mem_cons.mpr ⟨⟨bytes, content⟩, earlier⟩

theorem entriesOf_cons {path : String} {bytes : Text.Bytes} (content : read path = .ok bytes) :
    entriesOf read algorithm (path :: paths)
      = (entriesOf read algorithm paths).map (⟨path, algorithm.digest bytes⟩ :: ·) := by
  rw [entriesOf, entryOf, content]
  cases entriesOf read algorithm paths <;> rfl

theorem readableOf_cons {path : String} {bytes : Text.Bytes} (content : read path = .ok bytes) :
    readableOf read algorithm (path :: paths)
      = ⟨path, algorithm.digest bytes⟩ :: readableOf read algorithm paths := by
  rw [readableOf, List.filterMap_cons, entryOf, content]
  rfl

/-- When every file can be read there is an entry for each. -/
theorem entriesOf_of_readable (readable : Readable read paths) :
    entriesOf read algorithm paths = .ok (readableOf read algorithm paths) := by
  induction paths with
  | nil => rfl
  | cons path paths ih =>
    obtain ⟨⟨bytes, content⟩, rest⟩ := List.forall_mem_cons.mp readable
    rw [entriesOf_cons content, readableOf_cons content, ih rest]
    rfl

/-- The first file that cannot be read counts, whatever comes after it. -/
theorem entriesOf_of_unreadable {before after : List String} {path error : String}
    (earlier : Readable read before) (unreadable : read path = .error error) :
    entriesOf read algorithm (before ++ path :: after) = .error (.unreadable path error) := by
  induction before with
  | nil =>
    rw [List.nil_append, entriesOf, entryOf, unreadable]
    rfl
  | cons other before ih =>
    obtain ⟨⟨bytes, content⟩, rest⟩ := List.forall_mem_cons.mp earlier
    rw [List.cons_append, entriesOf_cons content, ih rest]
    rfl

/-- The manifest that files have when they can all be read. -/
def ofReadable (read : Reader) (unit : String) (files : List String) (algorithm : Algorithm)
    (now : Time.Instant) : Manifest :=
  let entries := readableOf read algorithm (normalSet files)
  ⟨unit, algorithm, now, ManifestEntry.unitDigest algorithm entries, entries⟩

/-- A manifest is computed in one of three ways: there is no file, or a file that cannot be read and
none before it, or a manifest. -/
theorem compute_cases (read : Reader) (unit : String) (files : List String)
    (algorithm : Algorithm) (now : Time.Instant) :
    normalSet files = [] ∧ compute read unit files algorithm now = .error (.emptyFileSet unit) ∨
      (∃ before path after error, normalSet files = before ++ path :: after ∧
        Readable read before ∧ read path = .error error ∧
        compute read unit files algorithm now = .error (.unreadable path error)) ∨
      normalSet files ≠ [] ∧ Readable read (normalSet files) ∧
        compute read unit files algorithm now = .ok (ofReadable read unit files algorithm now) := by
  by_cases empty : normalSet files = []
  · exact Or.inl ⟨empty, by rw [compute, empty]; rfl⟩
  right
  have some : ¬ (normalSet files).isEmpty = true := by simpa using empty
  rcases readable_or_exists_unreadable read (normalSet files) with
    all | ⟨before, path, after, error, split, earlier, unreadable⟩
  · refine Or.inr ⟨empty, all, ?_⟩
    rw [compute, if_neg some, entriesOf_of_readable all]
    rfl
  · refine Or.inl ⟨before, path, after, error, split, earlier, unreadable, ?_⟩
    rw [compute, if_neg some, split, entriesOf_of_unreadable earlier unreadable]
    rfl

theorem compute_eq_ok_iff :
    compute read unit files algorithm now = .ok manifest ↔
      normalSet files ≠ [] ∧ Readable read (normalSet files) ∧
        ofReadable read unit files algorithm now = manifest := by
  rcases compute_cases read unit files algorithm now with
    ⟨empty, fails⟩ | ⟨before, path, after, error, split, -, unreadable, fails⟩ | ⟨some, all, result⟩
  · simp [fails, empty]
  · rw [fails, split]
    refine ⟨nofun, fun computed => ?_⟩
    obtain ⟨bytes, content⟩ := computed.2.1 path (by simp)
    rw [unreadable] at content
    cases content
  · rw [result, Except.ok.injEq]
    exact ⟨fun same => ⟨some, all, same⟩, fun computed => computed.2.2⟩

/-- What is reported as unreadable is the first file in order that is. -/
theorem unreadable_of_compute_eq_error {path error : String}
    (fails : compute read unit files algorithm now = .error (.unreadable path error)) :
    path ∈ normalSet files ∧ read path = .error error ∧
      ∀ earlier ∈ normalSet files, earlier < path → ∃ bytes, read earlier = .ok bytes := by
  rcases compute_cases read unit files algorithm now with
    ⟨-, other⟩ | ⟨before, path', after, error', split, earlier, unreadable, other⟩ | ⟨-, -, other⟩
  · rw [other] at fails
    cases fails
  · rw [other] at fails
    cases fails
    have ordered := Text.pairwise_lt_sortedSet ((files.map Path.normalize).filter (· ≠ ""))
    rw [← normalSet, split, List.pairwise_append, List.pairwise_cons] at ordered
    rw [split]
    refine ⟨by simp, unreadable, fun other mem less => ?_⟩
    rcases List.mem_append.mp mem with first | later
    · exact earlier other first
    -- What comes from there on is not less.
    · rcases List.mem_cons.mp later with rfl | later
      · exact absurd less (String.lt_irrefl _)
      · exact absurd less (String.lt_asymm (ordered.2.1.1 other later))
  · rw [other] at fails
    cases fails

/-! ### What is computed is sound -/

theorem map_path_ofReadable (readable : Readable read (normalSet files)) :
    (ofReadable read unit files algorithm now).files.map (·.path) = normalSet files :=
  map_path_readableOf readable

theorem sound_ofReadable (named : Text.isBlankString unit = false) (some : normalSet files ≠ [])
    (readable : Readable read (normalSet files)) :
    (ofReadable read unit files algorithm now).Sound where
  unit := named
  nonempty := by
    intro empty
    have paths : (ofReadable read unit files algorithm now).files.map (·.path) = normalSet files :=
      map_path_ofReadable readable
    rw [empty] at paths
    exact some paths.symm
  entries := by
    intro entry mem
    obtain ⟨known, bytes, -, digest⟩ := mem_readableOf_iff.mp mem
    refine ⟨normalize_of_mem_normalSet known, (mem_normalSet_iff.mp known).1, ?_⟩
    rw [← digest]
    exact Algorithm.isDigest_digest _ _
  distinct := by
    rw [map_path_ofReadable readable]
    exact Text.nodup_sortedSet _
  unitDigestForm := Algorithm.isDigest_digest _ _
  unitDigest := rfl

/-- A computed manifest is accepted for every list that names the same files. -/
theorem checkDrift_ofReadable (named : Text.isBlankString unit = false)
    (some : normalSet files ≠ []) (readable : Readable read (normalSet files))
    (same : SameFiles files others) :
    (ofReadable read unit files algorithm now).checkDrift others read algorithm = .ok := by
  refine checkDrift_eq_ok_iff.mpr ⟨sound_ofReadable named some readable, rfl, ?_, ?_⟩
  · rw [normalSet_congr same]
    exact readable
  · rw [normalSet_congr same]
    rfl

/-- **A fresh manifest is canonical and never drifts.**  Lists that name the same files have the
same outcome.  A manifest that is computed for a unit with a name has one entry for every normal
form of a file, in the order of their bytes; nothing is wrong with it; and it is accepted for every
list that names the same files.  An error about a file is about the first one that cannot be
read. -/
theorem compute_canonical (read : Reader) (unit : String) (files : List String)
    (algorithm : Algorithm) (now : Time.Instant) :
    (∀ others, SameFiles files others →
      compute read unit others algorithm now = compute read unit files algorithm now) ∧
    (∀ path error, compute read unit files algorithm now = .error (.unreadable path error) →
      path ≠ "" ∧ path ∈ files.map Path.normalize ∧ read path = .error error ∧
        ∀ earlier ≠ "", earlier ∈ files.map Path.normalize →
          Text.bytesOf earlier < Text.bytesOf path → ∃ bytes, read earlier = .ok bytes) ∧
    (∀ manifest, Text.isBlankString unit = false →
      compute read unit files algorithm now = .ok manifest →
        (manifest.files.map fun entry => Text.bytesOf entry.path).Pairwise (· < ·) ∧
        (∀ path, path ∈ manifest.files.map (·.path) ↔
          path ≠ "" ∧ path ∈ files.map Path.normalize) ∧
        manifest.problem? = none ∧
        ∀ others, SameFiles files others → manifest.checkDrift others read algorithm = .ok) := by
  refine ⟨fun others same => ?_, fun path error fails => ?_, fun manifest named computed => ?_⟩
  · rw [compute, normalSet_congr same, compute]
  · obtain ⟨mem, unreadable, earlier⟩ := unreadable_of_compute_eq_error fails
    obtain ⟨nonempty, known⟩ := mem_normalSet_iff.mp mem
    refine ⟨nonempty, known, unreadable, fun other nonempty known less => ?_⟩
    exact earlier other (mem_normalSet_iff.mpr ⟨nonempty, known⟩) (Text.bytesOf_lt_bytesOf_iff.mp less)
  · obtain ⟨some, readable, rfl⟩ := compute_eq_ok_iff.mp computed
    have paths : (ofReadable read unit files algorithm now).files.map (·.path) = normalSet files :=
      map_path_ofReadable readable
    have sound : (ofReadable read unit files algorithm now).Sound :=
      sound_ofReadable named some readable
    refine ⟨?_, fun path => ?_, problem?_eq_none_iff.mpr sound, fun others same =>
      checkDrift_ofReadable named some readable same⟩
    · have ordered := Text.pairwise_lt_sortedSet ((files.map Path.normalize).filter (· ≠ ""))
      rw [← normalSet, ← paths, List.pairwise_map] at ordered
      rw [List.pairwise_map]
      exact ordered.imp Text.bytesOf_lt_bytesOf_iff.mpr
    · rw [paths, mem_normalSet_iff]

/-- Two empty files in several spellings: the manifest is computed, in order, and accepted. -/
theorem compute_canonical_respelled :
    SameFiles ["./b", "a//c"] ["b/", "a/./c", "b"] ∧
      ∃ manifest, compute emptyFiles "u" ["./b", "a//c"] .sha256 ⟨0, 0⟩ = .ok manifest ∧
        (manifest.files.map fun entry => Text.bytesOf entry.path).Pairwise (· < ·) ∧
        "b" ∈ manifest.files.map (·.path) ∧ manifest.problem? = none ∧
        manifest.checkDrift ["b/", "a/./c", "b"] emptyFiles .sha256 = .ok := by
  have names : ["./b", "a//c"].map Path.normalize = ["b", "a/c"] := by decide +kernel
  have others : ["b/", "a/./c", "b"].map Path.normalize = ["b", "a/c", "b"] := by decide +kernel
  have same : SameFiles ["./b", "a//c"] ["b/", "a/./c", "b"] := by
    intro path _
    rw [names, others]
    simp only [List.mem_cons, List.not_mem_nil, or_false]
    tauto
  have known : "b" ∈ normalSet ["./b", "a//c"] := mem_normalSet_iff.mpr ⟨by decide, by simp [names]⟩
  obtain ⟨-, -, canonical⟩ := compute_canonical emptyFiles "u" ["./b", "a//c"] .sha256 ⟨0, 0⟩
  have computed : compute emptyFiles "u" ["./b", "a//c"] .sha256 ⟨0, 0⟩
      = .ok (ofReadable emptyFiles "u" ["./b", "a//c"] .sha256 ⟨0, 0⟩) :=
    compute_eq_ok_iff.mpr ⟨List.ne_nil_of_mem known, fun path _ => ⟨[], rfl⟩, rfl⟩
  obtain ⟨ordered, files, sound, accepted⟩ := canonical _ (by decide +kernel) computed
  exact ⟨same, _, computed, ordered, (files "b").mpr (mem_normalSet_iff.mp known), sound,
    accepted _ same⟩

end QualityGate.Manifest
