import QualityGate.Proofs.Manifest.Freshness

/-!
# Why a manifest is rejected

A comparison decides by one digest and explains by comparing sets of paths.  This module says that
the explanation is exact, and that there always is one.

* `Findings` are the four lists that an explanation is made of: the files that cannot be read, and
  the paths that were added, removed or changed.  `Findings.Exact` says of each of them which paths
  it lists, in the order of their bytes.
* `Findings.reasons` puts them together: a reason for each file that cannot be read, and one for
  each of the other lists that is not empty.
* `reasons_exact` – a comparison accepts when the live pairs of path and digest are the stored ones,
  in whatever order these are stored, and otherwise it reports exact findings, never nothing.

### What is load-bearing

The digest over the entries depends only on the set of entries (`unitDigest_congr`).  When there are
no findings this set is the stored one (`samePairs_of_exact`), so the digests agree and the
comparison has accepted before it comes to explain anything.
-/

namespace QualityGate.Manifest

open QualityGate.Text (bytesOf)

variable {stored : Manifest} {files : List String} {read : Reader} {algorithm : Algorithm}

/-! ### Findings -/

/-- A path is live if it is the normal form of one of the files. -/
def IsLive (files : List String) (path : String) : Prop :=
  path ≠ "" ∧ path ∈ files.map Path.normalize

/-- The live pairs of a path and the digest of what the file holds are the stored ones. -/
def SamePairs (stored : Manifest) (files : List String) (read : Reader)
    (algorithm : Algorithm) : Prop :=
  ∀ entry, entry ∈ stored.files ↔ IsLive files entry.path ∧
    ∃ bytes, read entry.path = .ok bytes ∧ algorithm.digest bytes = entry.digest

/-- What a comparison finds. -/
structure Findings where
  /-- The files that cannot be read, each with the error. -/
  unreadable : List (String × String)
  added : List String
  removed : List String
  changed : List String

namespace Findings

/-- The reasons that are given for some findings. -/
def reasons (found : Findings) : List DriftReason :=
  found.unreadable.map (fun (path, error) => .unreadable path error)
    ++ (if found.added = [] then [] else [.filesAdded found.added])
    ++ (if found.removed = [] then [] else [.filesRemoved found.removed])
    ++ (if found.changed = [] then [] else [.contentChanged found.changed])

/-- The findings are those between a manifest and the live files, each list without repetitions and
in the order of bytes. -/
structure Exact (found : Findings) (stored : Manifest) (files : List String) (read : Reader)
    (algorithm : Algorithm) : Prop where
  unreadable_sorted : (found.unreadable.map fun file => bytesOf file.1).Pairwise (· < ·)
  added_sorted : (found.added.map bytesOf).Pairwise (· < ·)
  removed_sorted : (found.removed.map bytesOf).Pairwise (· < ·)
  changed_sorted : (found.changed.map bytesOf).Pairwise (· < ·)
  /-- Live files that cannot be read. -/
  mem_unreadable : ∀ path error, (path, error) ∈ found.unreadable ↔
    IsLive files path ∧ read path = .error error
  /-- Live paths that are not stored. -/
  mem_added : ∀ path, path ∈ found.added ↔
    IsLive files path ∧ path ∉ stored.files.map (·.path)
  /-- Stored paths that are not live. -/
  mem_removed : ∀ path, path ∈ found.removed ↔
    path ∈ stored.files.map (·.path) ∧ ¬ IsLive files path
  /-- Paths that are both, of files that can be read but with another digest. -/
  mem_changed : ∀ path, path ∈ found.changed ↔ IsLive files path ∧
    ∃ bytes, read path = .ok bytes ∧
      ∃ entry ∈ stored.files, entry.path = path ∧ algorithm.digest bytes ≠ entry.digest

/-- No finding says that a manifest makes no sense. -/
theorem malformed_notMem_reasons (found : Findings) (detail : String) :
    .malformed detail ∉ found.reasons := by
  intro mem
  simp only [reasons, List.mem_append, List.mem_map] at mem
  rcases mem with ((⟨file, -, same⟩ | mem) | mem) | mem
  · cases same
  all_goals
    split at mem
    · cases mem
    · cases List.mem_singleton.mp mem

theorem reasons_eq_nil_iff {found : Findings} : found.reasons = [] ↔
    found.unreadable = [] ∧ found.added = [] ∧ found.removed = [] ∧ found.changed = [] := by
  have listed {paths : List String} (reason : List String → DriftReason) :
      (if paths = [] then [] else [reason paths]) = [] ↔ paths = [] := by
    split <;> simp_all
  rw [reasons, List.append_eq_nil_iff, List.append_eq_nil_iff, List.append_eq_nil_iff,
    List.map_eq_nil_iff, listed, listed, listed, and_assoc, and_assoc]

end Findings

/-! ### What a comparison finds -/

/-- The findings of a comparison. -/
def findings (stored : Manifest) (files : List String) (read : Reader) (algorithm : Algorithm) :
    Findings where
  unreadable := (normalSet files).filterMap fun path =>
    match read path with
    | .ok _ => none
    | .error error => some (path, error)
  added := (normalSet files).filter fun path =>
    ! (Text.sortedSet (stored.files.map (·.path))).contains path
  removed := (Text.sortedSet (stored.files.map (·.path))).filter fun path =>
    ! (normalSet files).contains path
  changed := ((readableOf read algorithm (normalSet files)).filter fun entry =>
    (digestOf? stored.files entry.path).any (· ≠ entry.digest)).map (·.path)

theorem aboutPaths_eq (reason : List String → DriftReason) (paths : List String) :
    aboutPaths reason paths = if paths = [] then [] else [reason paths] := by
  cases paths <;> rfl

/-- The reasons of a comparison are those of its findings. -/
theorem reasons_findings (stored : Manifest) (files : List String) (read : Reader)
    (algorithm : Algorithm) :
    unreadableOf read (normalSet files) ++ differences stored.files (normalSet files)
        (readableOf read algorithm (normalSet files)) =
      (findings stored files read algorithm).reasons := by
  have unreadable : unreadableOf read (normalSet files) =
      (findings stored files read algorithm).unreadable.map
        fun (path, error) => .unreadable path error := by
    rw [unreadableOf, findings, List.map_filterMap]
    apply List.filterMap_congr
    intro path _
    cases read path <;> rfl
  rw [unreadable, differences, aboutPaths_eq, aboutPaths_eq, aboutPaths_eq, Findings.reasons,
    List.append_assoc, List.append_assoc, List.append_assoc]
  rfl

/-- What is made of some items is listed in their order. -/
theorem map_filterMap_sublist {α β : Type} {make : α → Option β} {key : β → α}
    (kept : ∀ item made, make item = some made → key made = item) (items : List α) :
    ((items.filterMap make).map key).Sublist items := by
  induction items with
  | nil => exact List.Sublist.slnil
  | cons item items ih =>
    cases made : make item with
    | none =>
      rw [List.filterMap_cons_none made]
      exact ih.cons item
    | some result =>
      rw [List.filterMap_cons_some made, List.map_cons, kept item result made]
      exact ih.cons_cons item

/-- With different paths, what is looked up is what is stored. -/
theorem digestOf?_eq_some_iff {entries : List ManifestEntry}
    (distinct : (entries.map (·.path)).Nodup) {path digest : String} :
    digestOf? entries path = some digest ↔ ⟨path, digest⟩ ∈ entries := by
  rw [digestOf?, Option.map_eq_some_iff]
  constructor
  · rintro ⟨entry, found, rfl⟩
    have here : entry.path = path := by simpa using List.find?_some found
    have known : entry ∈ entries := List.mem_reverse.mp (List.mem_of_find?_eq_some found)
    rwa [← here]
  · intro known
    obtain ⟨entry, found⟩ : ∃ entry, entries.reverse.find? (·.path == path) = some entry := by
      rw [← Option.isSome_iff_exists, List.find?_isSome]
      exact ⟨_, List.mem_reverse.mpr known, by simp⟩
    have here : entry.path = path := by simpa using List.find?_some found
    have other : entry ∈ entries := List.mem_reverse.mp (List.mem_of_find?_eq_some found)
    -- Entries with one path are one entry.
    have same : entry = ⟨path, digest⟩ :=
      List.inj_on_of_nodup_map distinct other known here
    exact ⟨entry, found, by rw [same]⟩

theorem pairwise_bytesOf_of_sublist {paths items : List String} (part : items.Sublist paths)
    (ordered : paths.Pairwise (· < ·)) : (items.map bytesOf).Pairwise (· < ·) := by
  rw [List.pairwise_map]
  exact (ordered.sublist part).imp Text.bytesOf_lt_bytesOf_iff.mpr

theorem path_of_entryOf {path : String} {entry : ManifestEntry}
    (found : (entryOf read algorithm path).toOption = some entry) : entry.path = path := by
  cases content : read path with
  | error error => simp [entryOf, content, Except.map, Except.toOption] at found
  | ok bytes =>
    simp only [entryOf, content, Except.map, Except.toOption, Option.some.injEq] at found
    rw [← found]

theorem unreadable_eq_some_iff {path other error : String} :
    (match read path with
      | .ok _ => none
      | .error error => some (path, error)) = some (other, error) ↔
        path = other ∧ read path = .error error := by
  cases read path <;> simp

/-- The findings of a comparison are exact, if no path is stored twice. -/
theorem exact_findings (distinct : (stored.files.map (·.path)).Nodup) :
    (findings stored files read algorithm).Exact stored files read algorithm where
  unreadable_sorted := by
    have part : ((findings stored files read algorithm).unreadable.map Prod.fst).Sublist
        (normalSet files) :=
      map_filterMap_sublist (fun path file found => (unreadable_eq_some_iff.mp found).1.symm) _
    have ordered := pairwise_bytesOf_of_sublist part (Text.pairwise_lt_sortedSet _)
    rwa [List.map_map] at ordered
  added_sorted :=
    pairwise_bytesOf_of_sublist List.filter_sublist (Text.pairwise_lt_sortedSet _)
  removed_sorted :=
    pairwise_bytesOf_of_sublist List.filter_sublist (Text.pairwise_lt_sortedSet _)
  changed_sorted := by
    have part : ((readableOf read algorithm (normalSet files)).map (·.path)).Sublist
        (normalSet files) :=
      map_filterMap_sublist (fun path entry found => path_of_entryOf found) _
    exact pairwise_bytesOf_of_sublist ((List.filter_sublist.map _).trans part)
      (Text.pairwise_lt_sortedSet _)
  mem_unreadable := by
    intro path error
    rw [IsLive, ← mem_normalSet_iff, findings, List.mem_filterMap]
    constructor
    · rintro ⟨other, live, found⟩
      obtain ⟨rfl, unreadable⟩ := unreadable_eq_some_iff.mp found
      exact ⟨live, unreadable⟩
    · rintro ⟨live, unreadable⟩
      exact ⟨path, live, unreadable_eq_some_iff.mpr ⟨rfl, unreadable⟩⟩
  mem_added := by
    intro path
    rw [IsLive, ← mem_normalSet_iff, findings, List.mem_filter]
    simp
  mem_removed := by
    intro path
    rw [IsLive, ← mem_normalSet_iff, findings, List.mem_filter]
    simp
  mem_changed := by
    intro path
    rw [IsLive, ← mem_normalSet_iff, findings, List.mem_map]
    constructor
    · rintro ⟨entry, mem, rfl⟩
      obtain ⟨readable, differs⟩ := List.mem_filter.mp mem
      obtain ⟨live, bytes, content, digest⟩ := mem_readableOf_iff.mp readable
      obtain ⟨known, found, other⟩ := (Option.any_eq_true _ _).mp differs
      refine ⟨live, bytes, content, ⟨entry.path, known⟩, (digestOf?_eq_some_iff distinct).mp found,
        rfl, ?_⟩
      rw [digest]
      exact Ne.symm (of_decide_eq_true other)
    · rintro ⟨live, bytes, content, known, mem, rfl, other⟩
      refine ⟨⟨known.path, algorithm.digest bytes⟩, List.mem_filter.mpr ⟨?_, ?_⟩, rfl⟩
      · exact mem_readableOf_iff.mpr ⟨live, bytes, content, rfl⟩
      · have found : digestOf? stored.files known.path = some known.digest :=
          (digestOf?_eq_some_iff distinct).mpr mem
        simp only [found, Option.any_some, decide_eq_true_eq]
        exact Ne.symm other

/-! ### Acceptance and rejection -/

/-- A manifest is accepted when its pairs are the live ones. -/
theorem checkDrift_of_samePairs (sound : stored.Sound) (expected : stored.algorithm = algorithm)
    (readable : ∀ path, IsLive files path → ∃ bytes, read path = .ok bytes)
    (same : stored.SamePairs files read algorithm) :
    stored.checkDrift files read algorithm = .ok := by
  refine checkDrift_eq_ok_iff.mpr ⟨sound, expected, ?_, ?_⟩
  · intro path live
    exact readable path (mem_normalSet_iff.mp live)
  · rw [← sound.unitDigest, expected]
    refine ManifestEntry.unitDigest_congr (fun entry => ?_) algorithm
    rw [mem_readableOf_iff, mem_normalSet_iff]
    exact (same entry).symm

/-- Without findings the pairs are the same. -/
theorem samePairs_of_exact {found : Findings} (exact : found.Exact stored files read algorithm)
    (nothing : found.reasons = []) :
    (∀ path, IsLive files path → ∃ bytes, read path = .ok bytes) ∧
      stored.SamePairs files read algorithm := by
  obtain ⟨unreadable, added, removed, changed⟩ := Findings.reasons_eq_nil_iff.mp nothing
  have readable : ∀ path, IsLive files path → ∃ bytes, read path = .ok bytes := by
    intro path live
    cases content : read path with
    | ok bytes => exact ⟨bytes, rfl⟩
    | error error =>
      have mem := (exact.mem_unreadable path error).mpr ⟨live, content⟩
      rw [unreadable] at mem
      cases mem
  -- What is stored under a live path is the digest of what the file holds: it has not changed.
  have unchanged : ∀ entry ∈ stored.files, ∀ bytes, IsLive files entry.path →
      read entry.path = .ok bytes → algorithm.digest bytes = entry.digest := by
    intro entry mem bytes live content
    by_contra other
    have mem := (exact.mem_changed entry.path).mpr ⟨live, bytes, content, entry, mem, rfl, other⟩
    rw [changed] at mem
    cases mem
  refine ⟨readable, fun entry => ⟨fun mem => ?_, ?_⟩⟩
  · have live : IsLive files entry.path := by
      by_contra gone
      have mem := (exact.mem_removed entry.path).mpr ⟨List.mem_map_of_mem mem, gone⟩
      rw [removed] at mem
      cases mem
    obtain ⟨bytes, content⟩ := readable entry.path live
    exact ⟨live, bytes, content, unchanged entry mem bytes live content⟩
  · obtain ⟨path, digest⟩ := entry
    rintro ⟨live, bytes, content, rfl⟩
    have known : path ∈ stored.files.map (·.path) := by
      by_contra new
      have mem := (exact.mem_added path).mpr ⟨live, new⟩
      rw [added] at mem
      cases mem
    obtain ⟨⟨_, digest⟩, mem, rfl⟩ := List.mem_map.mp known
    rw [unchanged _ mem bytes live content]
    exact mem

/-- A comparison with a sound manifest accepts it or reports what it finds, which is something. -/
theorem checkDrift_cases (sound : stored.Sound) (expected : stored.algorithm = algorithm)
    (files : List String) (read : Reader) :
    stored.checkDrift files read algorithm = .ok ∨
      (findings stored files read algorithm).reasons ≠ [] ∧
        stored.checkDrift files read algorithm =
          .drift (findings stored files read algorithm).reasons := by
  by_cases nothing : (findings stored files read algorithm).reasons = []
  · obtain ⟨readable, same⟩ := samePairs_of_exact (exact_findings sound.distinct) nothing
    exact Or.inl (checkDrift_of_samePairs sound expected readable same)
  · rw [checkDrift, problem?_eq_none_iff.mpr sound]
    simp only [ne_eq, expected, not_true_eq_false, if_false, reasons_findings]
    split
    · exact Or.inl rfl
    · exact Or.inr ⟨nothing, rfl⟩

/-- The order of the entries does not matter to validation. -/
theorem Sound.reordered (sound : stored.Sound) {entries : List ManifestEntry}
    (perm : entries.Perm stored.files) : Sound { stored with files := entries } where
  unit := sound.unit
  nonempty := fun empty => sound.nonempty (List.nil_perm.mp (empty ▸ perm))
  entries := fun entry mem => sound.entries entry (perm.mem_iff.mp mem)
  distinct := (perm.map _).nodup_iff.mpr sound.distinct
  unitDigestForm := sound.unitDigestForm
  unitDigest := (ManifestEntry.unitDigest_congr (fun _ => perm.mem_iff) _).trans sound.unitDigest

/-- **Reasons are exact and complete.**  Take a manifest that validation accepts and whose algorithm
is the expected one.  If every live file can be read and the live pairs are the stored ones, the
comparison accepts the manifest, in whatever order the pairs are stored; while a live file cannot be
read it does not.  And if it reports reasons, they are those of exact findings; there is at least
one, and none of them says that the manifest makes no sense. -/
theorem reasons_exact (accepted : stored.problem? = none) (expected : stored.algorithm = algorithm)
    (files : List String) (read : Reader) :
    ((∀ path, IsLive files path → ∃ bytes, read path = .ok bytes) →
      stored.SamePairs files read algorithm → ∀ entries, entries.Perm stored.files →
        { stored with files := entries }.checkDrift files read algorithm = .ok) ∧
    (stored.checkDrift files read algorithm = .ok →
      ∀ path, IsLive files path → ∃ bytes, read path = .ok bytes) ∧
    ∀ reasons, stored.checkDrift files read algorithm = .drift reasons →
      (∃ found : Findings, found.Exact stored files read algorithm ∧ reasons = found.reasons) ∧
        reasons ≠ [] ∧ ∀ detail, .malformed detail ∉ reasons := by
  have sound := problem?_eq_none_iff.mp accepted
  refine ⟨?_, ?_, ?_⟩
  · intro readable same entries perm
    refine checkDrift_of_samePairs (sound.reordered perm) expected readable fun entry => ?_
    exact perm.mem_iff.trans (same entry)
  · intro ok path live
    obtain ⟨-, -, readable, -⟩ := checkDrift_eq_ok_iff.mp ok
    exact readable path (mem_normalSet_iff.mpr live)
  · intro reasons rejected
    rcases checkDrift_cases sound expected files read with ok | ⟨something, drift⟩
    · rw [ok] at rejected
      cases rejected
    · rw [drift] at rejected
      cases rejected
      exact ⟨⟨_, exact_findings sound.distinct, rfl⟩, something,
        Findings.malformed_notMem_reasons _⟩

/-! ### An edited project -/

/-- The manifest of two empty files. -/
def twoEmpty : Manifest := ofReadable emptyFiles "u" ["a", "b"] .sha256 ⟨0, 0⟩

/-- The file `a` has been edited and `c` cannot be read; every other file is empty. -/
def editedFiles : Reader := fun path =>
  if path = "a" then .ok [0x78] else if path = "c" then .error "no such file" else .ok []

theorem normalSet_pair {files : List String} {first second : String} (less : first < second)
    (normal : (files.map Path.normalize).filter (· ≠ "") = [first, second]) :
    normalSet files = [first, second] := by
  have apart : [first, second].eraseDups = [first, second] := by
    have other : second ≠ first := fun same => String.lt_irrefl _ (same ▸ less)
    simp [List.eraseDups_cons, other]
  rw [normalSet, normal, Text.sortedSet, apart, Text.sorted]
  refine List.mergeSort_of_pairwise ?_
  simpa using (String.le_total first second).resolve_right (String.not_le.mpr less)

theorem sound_twoEmpty : twoEmpty.Sound := by
  have live : normalSet ["a", "b"] = ["a", "b"] := normalSet_pair (by decide) (by decide +kernel)
  refine sound_ofReadable (by decide) ?_ fun path _ => ⟨[], rfl⟩
  rw [live]
  exact List.cons_ne_nil _ _

theorem files_twoEmpty : twoEmpty.files = [⟨"a", emptyDigest⟩, ⟨"b", emptyDigest⟩] := by
  have live : normalSet ["a", "b"] = ["a", "b"] := normalSet_pair (by decide) (by decide +kernel)
  rw [twoEmpty, ofReadable, live]
  simp [readableOf, entryOf, emptyFiles, digest_nil, Except.map, Except.toOption]

theorem reasons_edited : (findings twoEmpty ["./a", "c"] editedFiles .sha256).reasons =
    [.unreadable "c" "no such file", .filesAdded ["c"], .filesRemoved ["b"],
      .contentChanged ["a"]] := by
  have live : normalSet ["./a", "c"] = ["a", "c"] := normalSet_pair (by decide) (by decide +kernel)
  have known : Text.sortedSet ["a", "b"] = ["a", "b"] := List.mergeSort_of_pairwise (by decide)
  have changed : Algorithm.sha256.digest [0x78] ≠ emptyDigest := by decide +kernel
  rw [findings, live, files_twoEmpty]
  simp [known, Findings.reasons, editedFiles, readableOf, entryOf, Except.map, Except.toOption,
    digestOf?, Ne.symm changed]

/-- One of the two files is edited, the other one is gone, and a new one cannot be read. -/
theorem reasons_exact_edited :
    twoEmpty.problem? = none ∧
      { twoEmpty with files := twoEmpty.files.reverse }.checkDrift ["b", "./a"] emptyFiles .sha256
        = .ok ∧
      ∃ found : Findings, found.Exact twoEmpty ["./a", "c"] editedFiles .sha256 ∧
        found.reasons = [.unreadable "c" "no such file", .filesAdded ["c"], .filesRemoved ["b"],
          .contentChanged ["a"]] ∧
        twoEmpty.checkDrift ["./a", "c"] editedFiles .sha256 = .drift found.reasons := by
  have accepted : twoEmpty.problem? = none := problem?_eq_none_iff.mpr sound_twoEmpty
  refine ⟨accepted, ?_, ?_⟩
  · have names : ["b", "./a"].map Path.normalize = ["b", "a"] ∧
        ["a", "b"].map Path.normalize = ["a", "b"] := by decide +kernel
    have live : normalSet ["b", "./a"] = normalSet ["a", "b"] := by
      apply normalSet_congr
      intro path _
      rw [names.1, names.2, List.mem_pair, List.mem_pair, or_comm]
    refine (reasons_exact accepted rfl ["b", "./a"] emptyFiles).1 (fun _ _ => ⟨[], rfl⟩) ?_ _
      (List.reverse_perm _)
    intro entry
    rw [IsLive, ← mem_normalSet_iff, live]
    exact mem_readableOf_iff
  · have rejected : twoEmpty.checkDrift ["./a", "c"] editedFiles .sha256 ≠ .ok := by
      intro ok
      obtain ⟨-, -, readable, -⟩ := checkDrift_eq_ok_iff.mp ok
      have live : "c" ∈ normalSet ["./a", "c"] := mem_normalSet_iff.mpr (by decide +kernel)
      obtain ⟨bytes, content⟩ := readable "c" live
      cases content
    obtain ⟨-, drift⟩ :=
      (checkDrift_cases sound_twoEmpty rfl ["./a", "c"] editedFiles).resolve_left rejected
    obtain ⟨⟨found, exact, same⟩, -, -⟩ :=
      (reasons_exact accepted rfl ["./a", "c"] editedFiles).2.2 _ drift
    exact ⟨found, exact, same ▸ reasons_edited, same ▸ drift⟩

end QualityGate.Manifest
