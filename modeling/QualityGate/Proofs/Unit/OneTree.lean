import QualityGate.Config.Validation
import QualityGate.Proofs.Text.Decoding
import QualityGate.Proofs.Unit.Course
import QualityGate.Proofs.Unit.Generation

/-!
# Artifacts among the files of a unit

The files of a project and its artifacts usually lie in one tree, so an artifact may be one of the
files that the manifest of its unit records.  A generation computes the manifest first and stamps
the artifact afterwards.

* `TreeView` – files in places; different paths may lead to one place.
* `UnitVerifier.OneTree` – files, their contents and the artifacts are taken from one tree.
* `UnitVerifier.Undisturbed` – what a generation has recorded is still so after it.
* `generate_undisturbed_iff` – it is so exactly when the artifact is none of the recorded files, or
  has the stamp already.
* `stamped_file_disturbed` – a unit with an artifact among its files.

### What is load-bearing

* Only an artifact that exists is stamped, so the files of the unit stay the same ones.
* A status reads the contents of the recorded files only.  As long as these are what they were,
  nothing that it says is about them, whatever has become of the stored manifest
  (`UnitEvidence.aboutFiles_status`).
-/

namespace QualityGate

open QualityGate.Text (Bytes bytesOf)

variable {σ ι : Type}

/-- Whether a reason is that the files of a unit are not the recorded ones. -/
def DriftReason.isAboutFiles : DriftReason → Bool
  | filesAdded _ | filesRemoved _ | contentChanged _ => true
  | _ => false

/-! ### Trees -/

/-- What there is in a tree, and the stored manifests. -/
structure TreeView (ι : Type) where
  /-- The files that match any of some globs. -/
  files : List String → List String
  /-- The place that a path leads to. -/
  place : String → ι
  content : ι → Except String Bytes
  manifests : String → Option String

namespace TreeView

/-- The contents by path. -/
def reader (tree : TreeView ι) : Reader := fun path => tree.content (tree.place path)

/-- Nothing but the content of a file has changed, which is now this text. -/
structure Rewritten (tree : TreeView ι) (path text : String) (next : TreeView ι) : Prop where
  files : next.files = tree.files
  place : next.place = tree.place
  manifests : next.manifests = tree.manifests
  here : next.reader path = .ok (bytesOf text)
  elsewhere (place : ι) : place ≠ tree.place path → next.content place = tree.content place

end TreeView

namespace UnitVerifier

/-- The ports of a verifier work on one tree, as far as they do not fail, and the manifests are
stored apart from it. -/
structure OneTree (verifier : UnitVerifier σ) (tree : σ → TreeView ι) : Prop where
  list {globs : List String} {state next : σ} {files : List String} :
    (verifier.workspace.listMatching globs).run.run state = (.ok files, next) →
      files = (tree state).files globs ∧ tree next = tree state
  contents {state next : σ} {read : Reader} :
    verifier.contents.run state = (read, next) →
      read = (tree state).reader ∧ tree next = tree state
  load {unit : String} {state next : σ} {raw : Option String} :
    (verifier.manifests.load unit).run.run state = (.ok raw, next) →
      raw = (tree state).manifests unit ∧ tree next = tree state
  /-- A manifest is stored as a text. -/
  save {manifest : Manifest} {state next : σ} :
    (verifier.manifests.save manifest).run.run state = (.ok (), next) →
      ∃ raw, manifest.StoredText raw ∧ tree next = { tree state with
        manifests := Function.update (tree state).manifests manifest.unit (some raw) }
  /-- An artifact is a file with a text. -/
  read {path : String} {state next : σ} {artifact : Option String} :
    (verifier.artifacts.read path).run.run state = (.ok artifact, next) →
      (∀ text, artifact = some text ↔ (tree state).reader path = .ok (bytesOf text)) ∧
        tree next = tree state
  write {path text : String} {state next : σ} :
    (verifier.artifacts.write path text).run.run state = (.ok (), next) →
      (∃ bytes, (tree state).reader path = .ok bytes) →
        (tree state).Rewritten path text (tree next)

/-- After a generation the recorded files are what they were before, and a status says so, too. -/
structure Undisturbed (verifier : UnitVerifier σ) (tree : σ → TreeView ι) (id : String)
    (manifest : Manifest) (state next : σ) : Prop where
  kept (entry : ManifestEntry) : entry ∈ manifest.files →
    (tree next).reader entry.path = (tree state).reader entry.path
  quiet (status : UnitStatus) (last : σ) :
    (verifier.status id).run.run next = (.ok status, last) →
      ∀ reason ∈ status.reasons, reason.isAboutFiles = false

end UnitVerifier

/-! ### A status of recorded files -/

namespace Manifest

/-- A comparison reads the live files alone. -/
theorem checkDrift_congr {read other : Reader} {files : List String}
    (same : ∀ path ∈ normalSet files, other path = read path) (manifest : Manifest)
    (expected : Algorithm) :
    manifest.checkDrift files other expected = manifest.checkDrift files read expected := by
  have entries : ∀ path ∈ normalSet files,
      (entryOf other expected path).toOption = (entryOf read expected path).toOption := by
    intro path mem
    rw [entryOf, entryOf, same path mem]
  have unreadable : unreadableOf other (normalSet files) = unreadableOf read (normalSet files) := by
    refine List.filterMap_congr fun path mem => ?_
    rw [same path mem]
  have readable : readableOf other expected (normalSet files) =
      readableOf read expected (normalSet files) := List.filterMap_congr entries
  unfold checkDrift
  dsimp only
  rw [unreadable, readable]

end Manifest

/-- Nothing that is said of an artifact is about files. -/
theorem Artifact.aboutFiles_check (text : String) (sections : List String) (live : Option String) :
    ∀ reason ∈ Artifact.check text sections live, reason.isAboutFiles = false := by
  intro reason mem
  rcases List.mem_append.mp mem with section_ | stamp
  · obtain ⟨title, -, found⟩ := List.mem_filterMap.mp section_
    simp only [Option.ite_none_right_eq_some, Option.some.injEq] at found
    rw [← found.2]
    rfl
  · unfold Artifact.stampReasons at stamp
    split at stamp
    · cases stamp
    · split at stamp
      · split at stamp
        · cases stamp
        · rw [List.mem_singleton.mp stamp]
          rfl
      · cases stamp
    · rw [List.mem_singleton.mp stamp]
      rfl

/-- As long as the recorded files are what they were, nothing that a status says is about them.
The stored text may not be readable: the instant in it may be none that can be read back. -/
theorem UnitEvidence.aboutFiles_status {read other : Reader} {id raw : String} {files : List String}
    {algorithm : Algorithm} {now : Time.Instant} {manifest : Manifest}
    (named : Text.isBlankString id = false)
    (computes : Manifest.compute read id files algorithm now = .ok manifest)
    (stored : manifest.StoredText raw)
    (same : ∀ entry ∈ manifest.files, other entry.path = read entry.path)
    (artifact : Option String) (sections : List String) :
    ∀ reason ∈ (UnitEvidence.status ⟨id, some raw, files, artifact, sections⟩ other
      algorithm).reasons, reason.isAboutFiles = false := by
  obtain ⟨some, readable, rfl⟩ := Manifest.compute_eq_ok_iff.mp computes
  have unread : ∀ path ∈ Manifest.normalSet files, other path = read path := by
    intro path mem
    rw [← Manifest.map_path_ofReadable readable] at mem
    obtain ⟨entry, mem, rfl⟩ := List.mem_map.mp mem
    exact same entry mem
  have drift : ∀ reason ∈ (UnitEvidence.drift ⟨id, Option.some raw, files, artifact, sections⟩ other
      algorithm).1.reasons, reason.isAboutFiles = false := by
    rcases Manifest.parse_cases_of_storedText stored with ⟨problem, fails⟩ | ⟨instant, parsed⟩
    · rw [UnitEvidence.drift, Option.map_some, fails]
      intro reason mem
      rw [List.mem_singleton.mp mem]
      rfl
    · have accepted : (Manifest.ofReadable read id files algorithm instant).checkDrift files other
          algorithm = .ok := by
        rw [Manifest.checkDrift_congr unread]
        exact Manifest.checkDrift_ofReadable named some readable fun _ _ => Iff.rfl
      have trusted : UnitEvidence.drift ⟨id, Option.some raw, files, artifact, sections⟩ other
          algorithm = (.ok, Option.some _) :=
        UnitEvidence.drift_of_accepted rfl parsed rfl accepted
      rw [trusted]
      intro reason mem
      cases mem
  intro reason mem
  rw [UnitEvidence.status, UnitStatus.reasons_ofReasons] at mem
  rcases List.mem_append.mp mem with early | late
  · exact drift reason early
  · cases artifact with
    | none => cases late
    | some text => exact Artifact.aboutFiles_check text sections _ reason late

namespace UnitVerifier

/-! ### Operations on a tree -/

variable {verifier : UnitVerifier σ} {tree : σ → TreeView ι} {id : String} {unit : ConfigUnit}
  {now : Time.Instant} {manifest : Manifest} {state next : σ}

/-- What has become of the artifact of a unit: there was none, or it has been written with a
stamp. -/
inductive Stamped (unit : ConfigUnit) (digest : String) (before after : TreeView ι) : Prop where
  | absent
      (nothing : ∀ path text, unit.context = some path → before.reader path ≠ .ok (bytesOf text))
      (same : after = before)
  | written {path text : String} (context : unit.context = some path)
      (found : before.reader path = .ok (bytesOf text))
      (written : before.Rewritten path (Artifact.stamp text digest) after)

namespace OneTree

variable (one : verifier.OneTree tree)
include one

theorem tree_of_liveFiles {files : List String}
    (lists : (verifier.liveFiles unit).run.run state = (.ok files, next)) :
    files = (tree state).files unit.files ∧ tree next = tree state :=
  one.list (UnitM.run_ofPort_eq_ok_iff.mp lists)

/-- Stamping changes the artifact, if there is one. -/
theorem stamped_of_restamp {digest : String}
    (stamps : (verifier.restamp unit digest).run.run state = (.ok (), next)) :
    Stamped unit digest (tree state) (tree next) := by
  unfold restamp artifactText at stamps
  cases context : unit.context with
  | none =>
    rw [context] at stamps
    cases stamps
    refine .absent ?_ rfl
    intro path text some
    cases context.symm.trans some
  | some path =>
    rw [context] at stamps
    dsimp only at stamps
    obtain ⟨artifact, mid, looked, later⟩ := UnitM.run_bind_eq_ok_iff.mp stamps
    obtain ⟨found, same⟩ := one.read (UnitM.run_ofPort_eq_ok_iff.mp looked)
    cases artifact with
    | none =>
      cases later
      refine .absent ?_ same
      intro other text some content
      cases context.symm.trans some
      cases (found text).mpr content
    | some text =>
      have content := (found text).mp rfl
      have rewritten := one.write (UnitM.run_ofPort_eq_ok_iff.mp later)
        ⟨_, (congrArg (TreeView.reader · path) same).trans content⟩
      rw [same] at rewritten
      exact .written context content rewritten

/-- What a generation that goes through makes of a tree. -/
theorem of_generate (generated : (verifier.generate id now).run.run state = (.ok manifest, next)) :
    ∃ unit raw, verifier.unit id = .ok unit ∧ manifest.StoredText raw ∧
      Manifest.compute (tree state).reader id ((tree state).files unit.files) verifier.algorithm now
        = .ok manifest ∧
      Stamped unit manifest.unitDigest { tree state with
        manifests := Function.update (tree state).manifests id (some raw) } (tree next) := by
  obtain ⟨unit, looked, saved, computed, saves, stamps⟩ := generate_eq_ok_iff.mp generated
  have named := computed.unit_eq
  obtain ⟨declared, lists, reads, computes⟩ := computed
  obtain ⟨rfl, listed⟩ := one.tree_of_liveFiles lists
  obtain ⟨rfl, same⟩ := one.contents reads
  obtain ⟨raw, stored, put⟩ := one.save saves
  have stamped := one.stamped_of_restamp stamps
  rw [put, same, listed, named] at stamped
  rw [listed] at computes
  exact ⟨unit, raw, declared, stored, computes, stamped⟩

/-- A status is about what there is in the tree. -/
theorem of_status {status : UnitStatus} (declared : verifier.unit id = .ok unit)
    (judged : (verifier.status id).run.run state = (.ok status, next)) :
    ∃ artifact, status = UnitEvidence.status ⟨id, (tree state).manifests id,
      (tree state).files unit.files, artifact, unit.sections⟩ (tree state).reader
        verifier.algorithm := by
  rw [UnitVerifier.status, UnitM.run_bind_ok (by rw [UnitM.run_liftExcept, declared])] at judged
  obtain ⟨files, listed, lists, judged⟩ := UnitM.run_bind_eq_ok_iff.mp judged
  obtain ⟨rfl, sameListed⟩ := one.tree_of_liveFiles lists
  obtain ⟨raw, loaded, loads, judged⟩ := UnitM.run_bind_eq_ok_iff.mp judged
  obtain ⟨rfl, sameLoaded⟩ := one.load (UnitM.run_ofPort_eq_ok_iff.mp loads)
  obtain ⟨artifact, found, reads, judged⟩ := UnitM.run_bind_eq_ok_iff.mp judged
  have sameFound : tree found = tree loaded := by
    unfold artifactText at reads
    cases context : unit.context with
    | none =>
      rw [context] at reads
      cases reads
      rfl
    | some path =>
      rw [context] at reads
      exact (one.read (UnitM.run_ofPort_eq_ok_iff.mp reads)).2
  obtain ⟨read, looked, contents, judged⟩ := UnitM.run_bind_eq_ok_iff.mp judged
  obtain ⟨rfl, -⟩ := one.contents (UnitM.run_liftState_eq_ok_iff.mp contents)
  cases judged
  refine ⟨artifact, ?_⟩
  rw [sameFound, sameLoaded, sameListed]

end OneTree

/-- **When a generation leaves what it has recorded alone.**  When files and artifacts lie in one
tree, a generation of a unit with a name leaves the recorded files as they were, and a status says
of none of them that it was added, removed or changed, exactly when the artifact is none of the
recorded files or its text is the same with the stamp. -/
theorem generate_undisturbed_iff (one : verifier.OneTree tree)
    (named : Text.isBlankString id = false)
    (generated : (verifier.generate id now).run.run state = (.ok manifest, next)) :
    verifier.Undisturbed tree id manifest state next ↔
      ∀ unit path text, verifier.unit id = .ok unit → unit.context = some path →
        (∃ entry ∈ manifest.files, (tree state).place entry.path = (tree state).place path) →
        (tree state).reader path = .ok (bytesOf text) →
          Artifact.stamp text manifest.unitDigest = text := by
  obtain ⟨unit, raw, declared, stored, computes, stamped⟩ := one.of_generate generated
  constructor
  · intro undisturbed other path text declared' context overlap content
    obtain rfl := Except.ok.inj (declared.symm.trans declared')
    obtain ⟨entry, mem, place⟩ := overlap
    cases stamped with
    | absent nothing => exact absurd content (nothing path text context)
    | @written path' text' context' found written =>
      obtain rfl := Option.some.inj (context.symm.trans context')
      have same : bytesOf text = bytesOf text' := Except.ok.inj (content.symm.trans found)
      obtain rfl : text = text' := String.toList_inj.mp (Text.Utf8.encode_injective same)
      have here : (tree next).reader entry.path = (tree next).reader path := by
        rw [TreeView.reader, TreeView.reader, written.place]
        exact congrArg _ place
      have before : (tree state).reader entry.path = (tree state).reader path :=
        congrArg (tree state).content place
      have kept := undisturbed.kept entry mem
      rw [here, before, written.here, content] at kept
      exact String.toList_inj.mp (Text.Utf8.encode_injective (Except.ok.inj kept))
  · intro harmless
    have kept : ∀ entry ∈ manifest.files,
        (tree next).reader entry.path = (tree state).reader entry.path := by
      intro entry mem
      cases stamped with
      | absent nothing same => rw [same]; rfl
      | @written path text context found written =>
        by_cases overlap : (tree state).place entry.path = (tree state).place path
        · have same := harmless unit path text declared context ⟨entry, mem, overlap⟩ found
          have here : (tree next).reader entry.path = (tree next).reader path := by
            rw [TreeView.reader, TreeView.reader, written.place]
            exact congrArg _ overlap
          have before : (tree state).reader entry.path = (tree state).reader path :=
            congrArg (tree state).content overlap
          rw [here, written.here, same, before]
          exact found.symm
        · rw [TreeView.reader, written.place]
          exact written.elsewhere _ overlap
    have files : (tree next).files = (tree state).files := by
      cases stamped with
      | absent nothing same => rw [same]
      | written context found written => exact written.files
    have manifests : (tree next).manifests id = some raw := by
      cases stamped with
      | absent nothing same =>
        rw [same]
        exact Function.update_self ..
      | written context found written =>
        rw [written.manifests]
        exact Function.update_self ..
    refine ⟨kept, ?_⟩
    intro status last judged
    obtain ⟨artifact, rfl⟩ := one.of_status declared judged
    rw [files, manifests]
    exact UnitEvidence.aboutFiles_status named computes stored kept artifact unit.sections

end UnitVerifier

/-! ### A tree in memory -/

namespace MemoryProject

/-- Files with a new content for one of them, or with one more file. -/
def rewrite (path : String) (bytes : Bytes) (files : List (String × Bytes)) :
    List (String × Bytes) :=
  if (files.lookup path).isSome then
    files.map fun (name, content) => (name, if name = path then bytes else content)
  else (path, bytes) :: files

/-- Artifacts that are files with a text. -/
def fileArtifacts : ArtifactStore MemoryProject where
  read path := do
    match (← get).reader path with
    | .error _ => return none
    | .ok bytes =>
      match Text.stringOf? bytes with
      | some text => return some text
      | none => throw ⟨s!"{path} is no text", []⟩
  write path text := (modify fun project =>
    { project with files := rewrite path (bytesOf text) project.files } : StateM MemoryProject Unit)
  remove path := (modify fun project =>
    { project with files := delete path project.files } : StateM MemoryProject Unit)

/-- The operations on some units, with their artifacts among the files. -/
def treeVerifier (units : List ConfigUnit) (algorithm : Algorithm) : UnitVerifier MemoryProject :=
  { verifier units algorithm with artifacts := fileArtifacts }

/-- What there is in a project; every path leads to a place of its own. -/
def tree (project : MemoryProject) : TreeView String where
  files globs :=
    match Glob.ofStrings globs with
    | .error _ => []
    | .ok globs => project.paths.filter (Glob.anyAdmits globs)
  place path := path
  content := project.reader
  manifests unit := project.manifests.lookup unit

theorem map_fst_rewrite {path : String} {bytes : Bytes} {files : List (String × Bytes)}
    (known : (files.lookup path).isSome = true) :
    (rewrite path bytes files).map (·.1) = files.map (·.1) := by
  rw [rewrite, if_pos known, List.map_map]
  rfl

theorem lookup_map_content (path other : String) (bytes : Bytes) (files : List (String × Bytes)) :
    (files.map fun (name, content) => (name, if name = path then bytes else content)).lookup other =
      (files.lookup other).map fun content => if other = path then bytes else content := by
  induction files with
  | nil => rfl
  | cons file files ih =>
    obtain ⟨name, content⟩ := file
    rw [List.map_cons, List.lookup_cons, List.lookup_cons]
    by_cases same : other = name
    · subst same
      rw [beq_self_eq_true]
      rfl
    · have notIt : (other == name) = false := by simpa using same
      rw [notIt]
      exact ih

/-- A file that can be read is written in its place. -/
theorem rewritten_rewrite {project : MemoryProject} {path text : String} {bytes : Bytes}
    (readable : project.reader path = .ok bytes) :
    project.tree.Rewritten path text
      (tree { project with files := rewrite path (bytesOf text) project.files }) := by
  have allowed : project.denied.lookup path = none := by
    unfold reader at readable
    cases denied : project.denied.lookup path with
    | none => rfl
    | some error =>
      rw [denied] at readable
      cases readable
  have known : project.files.lookup path = some bytes := by
    unfold reader at readable
    rw [allowed] at readable
    cases found : project.files.lookup path with
    | none =>
      rw [found] at readable
      cases readable
    | some content =>
      rw [found] at readable
      exact congrArg some (Except.ok.inj readable)
  have isKnown : (project.files.lookup path).isSome = true := by rw [known]; rfl
  have after (other : String) : (rewrite path (bytesOf text) project.files).lookup other =
      (project.files.lookup other).map fun content =>
        if other = path then bytesOf text else content := by
    rw [rewrite, if_pos isKnown]
    exact lookup_map_content path other (bytesOf text) project.files
  have paths : paths { project with files := rewrite path (bytesOf text) project.files }
      = project.paths := congrArg Text.sorted (map_fst_rewrite isKnown)
  refine ⟨?_, rfl, rfl, ?_, ?_⟩
  · funext globs
    show (match Glob.ofStrings globs with
      | .error _ => []
      | .ok globs => (MemoryProject.paths _).filter (Glob.anyAdmits globs)) = _
    rw [paths]
    rfl
  · show reader _ path = _
    unfold reader
    dsimp only
    rw [allowed, after path, known]
    exact congrArg Except.ok (if_pos rfl)
  · intro other different
    show reader _ other = reader _ other
    unfold reader
    dsimp only
    rw [after other]
    have same : (fun content => if other = path then bytesOf text else content) = id := by
      funext content
      exact if_neg different
    rw [same, Option.map_id]
    rfl

theorem run_fileArtifacts_read_eq (project : MemoryProject) (path : String) :
    (fileArtifacts.read path).run.run project =
      match project.reader path with
      | .error _ => (.ok none, project)
      | .ok bytes =>
        match Text.stringOf? bytes with
        | some text => (.ok (some text), project)
        | none => (.error ⟨s!"{path} is no text", []⟩, project) := by
  show (match project.reader path with
    | .error _ => (return none : PortM MemoryProject (Option String))
    | .ok bytes =>
      match Text.stringOf? bytes with
      | some text => return some text
      | none => throw (⟨s!"{path} is no text", []⟩ : PortError)).run.run project = _
  cases project.reader path with
  | error error => rfl
  | ok bytes =>
    dsimp only
    cases Text.stringOf? bytes <;> rfl

theorem run_fileArtifacts_read {project next : MemoryProject} {path : String}
    {artifact : Option String}
    (reads : (fileArtifacts.read path).run.run project = (.ok artifact, next)) :
    (∀ text, artifact = some text ↔ project.reader path = .ok (bytesOf text)) ∧ next = project := by
  rw [run_fileArtifacts_read_eq] at reads
  cases content : project.reader path with
  | error error =>
    rw [content] at reads
    obtain ⟨rfl, rfl⟩ := by simpa using reads
    exact ⟨fun text => ⟨nofun, nofun⟩, rfl⟩
  | ok bytes =>
    rw [content] at reads
    cases decoded : Text.stringOf? bytes with
    | none =>
      simp only [decoded] at reads
      cases reads
    | some found =>
      simp only [decoded] at reads
      obtain ⟨rfl, rfl⟩ := by simpa using reads
      refine ⟨fun text => ?_, rfl⟩
      rw [← decoded, Text.stringOf?_eq_some_iff, Except.ok.injEq]
      exact eq_comm

/-- A project in memory with its artifacts among the files is one tree, whatever is made to fail. -/
theorem oneTree_treeVerifier (units : List ConfigUnit) (algorithm : Algorithm) :
    (treeVerifier units algorithm).OneTree tree where
  list := by
    intro globs project next files lists
    change (listMatching globs).run.run project = _ at lists
    unfold listMatching at lists
    cases meaning : Glob.ofStrings globs with
    | error error =>
      rw [meaning] at lists
      cases lists
    | ok compiled =>
      rw [meaning] at lists
      rcases run_guarded_cases project "list" _ with ⟨error, fails⟩ | works
      · cases fails.symm.trans lists
      · cases works.symm.trans lists
        refine ⟨?_, rfl⟩
        simp only [tree, meaning]
        rfl
  contents := by
    intro project next read reads
    cases reads
    exact ⟨rfl, rfl⟩
  load := by
    intro unit project next raw loads
    rcases run_load_cases project unit with ⟨error, fails⟩ | works
    · cases fails.symm.trans loads
    · cases works.symm.trans loads
      exact ⟨rfl, rfl⟩
  save := by
    intro manifest project next saves
    rcases run_save_cases project manifest with ⟨error, fails⟩ | works
    · cases fails.symm.trans saves
    · cases works.symm.trans saves
      refine ⟨_, .compact, ?_⟩
      exact congrArg (fun manifests => { project.tree with manifests := manifests })
        (lookup_put manifest.unit _ project.manifests)
  read := by
    intro path project next artifact reads
    obtain ⟨found, rfl⟩ := run_fileArtifacts_read reads
    exact ⟨found, rfl⟩
  write := by
    rintro path text project next writes ⟨bytes, readable⟩
    cases writes
    exact rewritten_rewrite readable

end MemoryProject

/-! ### A document that is its own artifact -/

/-- A project with a document and a note, which is none of its documents. -/
def documented : MemoryProject where
  files := [("doc.md", bytesOf "Why"), ("note.md", bytesOf "What")]

/-- The unit of the document, with this artifact. -/
def documentUnit (context : String) : ConfigUnit :=
  { ConfigUnit.ofFiles "u" ["doc.md"] with context := some context }

/-- A configuration with that unit. -/
def documentConfig (context : String) : Config where
  project := { sources := [] }
  units := [documentUnit context]

/-- The operations on it. -/
def documentUnits (context : String) : UnitVerifier MemoryProject :=
  MemoryProject.treeVerifier (documentConfig context).units .sha256

namespace UnitVerifier

theorem run_listMatching_documented :
    (MemoryProject.listMatching ["doc.md"]).run.run documented = (.ok ["doc.md"], documented) := by
  have paths : documented.paths = ["doc.md", "note.md"] := List.mergeSort_of_pairwise (by decide)
  have matched : (documented.view.files ["doc.md"]).toOption = some ["doc.md"] := by
    show ((match Glob.ofStrings ["doc.md"] with
      | .error error => Except.error ⟨error.message, []⟩
      | .ok globs => .ok (documented.paths.filter (Glob.anyAdmits globs)) :
        Except PortError (List String))).toOption = _
    rw [paths]
    decide +kernel
  rw [MemoryProject.run_listMatching rfl]
  cases listed : documented.view.files ["doc.md"] with
  | error error =>
    rw [listed] at matched
    cases matched
  | ok files =>
    rw [listed] at matched
    rw [Option.some.inj matched]

/-- The unit is generated, with a manifest that records the document. -/
theorem exists_generate_documented {context : String}
    (known : context = "doc.md" ∨ context = "note.md") :
    ∃ manifest next,
      ((documentUnits context).generate "u" ⟨0, 0⟩).run.run documented = (.ok manifest, next) ∧
        manifest.files.map (·.path) = ["doc.md"] := by
  have lists : ((documentUnits context).liveFiles (documentUnit context)).run.run documented
      = (.ok ["doc.md"], documented) := UnitM.run_ofPort_eq_ok_iff.mpr run_listMatching_documented
  have recorded : (((documentUnits context).generate "u" ⟨0, 0⟩).run.run documented).1.map
      (fun manifest => manifest.files.map (·.path)) = .ok ["doc.md"] := by
    rw [generate, UnitM.run_bind_ok (by rw [UnitM.run_liftExcept]; rfl), UnitM.run_bind_ok lists]
    rcases known with rfl | rfl
    · decide +kernel
    · decide +kernel
  cases generated : ((documentUnits context).generate "u" ⟨0, 0⟩).run.run documented with
  | mk answer next =>
    rw [generated] at recorded
    cases answer with
    | error error => cases recorded
    | ok manifest => exact ⟨manifest, next, rfl, Except.ok.inj recorded⟩

/-- A unit whose artifact is another file keeps what its generation has recorded. -/
theorem generate_undisturbed_note :
    (documentUnits "note.md").OneTree MemoryProject.tree ∧ Text.isBlankString "u" = false ∧
      ∃ manifest next,
        ((documentUnits "note.md").generate "u" ⟨0, 0⟩).run.run documented = (.ok manifest, next) ∧
          (documentUnits "note.md").Undisturbed MemoryProject.tree "u" manifest documented next := by
  have one : (documentUnits "note.md").OneTree MemoryProject.tree :=
    MemoryProject.oneTree_treeVerifier _ _
  have named : Text.isBlankString "u" = false := by decide +kernel
  obtain ⟨manifest, next, generated, recorded⟩ := exists_generate_documented (Or.inr rfl)
  refine ⟨one, named, manifest, next, generated, ?_⟩
  refine (generate_undisturbed_iff one named generated).mpr ?_
  rintro unit path text declared context ⟨entry, mem, overlap⟩ -
  obtain rfl := Except.ok.inj declared
  cases context
  have path : entry.path ∈ manifest.files.map (·.path) := List.mem_map_of_mem mem
  rw [recorded, List.mem_singleton] at path
  exact absurd (path.symm.trans overlap) (by decide)

/-- **A document that is its own artifact.**  The unit of a validated configuration has an artifact
among its files.  Its generation goes through, and stamps the document that it has just recorded. -/
theorem stamped_file_disturbed :
    (documentConfig "doc.md").validate = .ok () ∧
      (documentUnits "doc.md").OneTree MemoryProject.tree ∧ Text.isBlankString "u" = false ∧
      ∃ manifest next,
        ((documentUnits "doc.md").generate "u" ⟨0, 0⟩).run.run documented = (.ok manifest, next) ∧
          ¬ (documentUnits "doc.md").Undisturbed MemoryProject.tree "u" manifest documented next := by
  obtain ⟨manifest, next, generated, recorded⟩ := exists_generate_documented (Or.inl rfl)
  refine ⟨by decide +kernel, MemoryProject.oneTree_treeVerifier _ _, by decide +kernel, manifest,
    next, generated, ?_⟩
  intro undisturbed
  have mem : "doc.md" ∈ manifest.files.map (·.path) := by
    rw [recorded]
    exact List.mem_singleton_self _
  obtain ⟨entry, mem, path⟩ := List.mem_map.mp mem
  have kept := undisturbed.kept entry mem
  rw [path] at kept
  have stamped : (((documentUnits "doc.md").generate "u" ⟨0, 0⟩).run.run documented).2.reader "doc.md"
      ≠ documented.reader "doc.md" := by
    have lists : ((documentUnits "doc.md").liveFiles (documentUnit "doc.md")).run.run documented
      = (.ok ["doc.md"], documented) := UnitM.run_ofPort_eq_ok_iff.mpr run_listMatching_documented
    rw [generate, UnitM.run_bind_ok (by rw [UnitM.run_liftExcept]; rfl), UnitM.run_bind_ok lists]
    decide +kernel
  rw [generated] at stamped
  exact stamped kept

end UnitVerifier

end QualityGate
