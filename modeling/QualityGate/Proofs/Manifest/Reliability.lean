import QualityGate.Manifest.Drift
import QualityGate.Proofs.Digest.Form
import QualityGate.Proofs.Manifest.Preimage
import QualityGate.Proofs.Manifest.Soundness
import QualityGate.Proofs.Text.Utf8

/-!
# What an accepted manifest proves

A comparison accepts a manifest when one digest agrees, the one over all entries.  What that proves
about the files rests on two things: that no two of the digested texts share a digest, and that the
entries can be read back from the text of their lines.

* `checkDrift_eq_ok_iff` says what the comparison decides.
* `Agrees` is what an accepted manifest is taken to prove: every live file can be read, the live
  paths are the stored ones, and so are the digests of their contents.
* `acceptance_reliable_iff` says when it does prove that, up to a collision of digests (`Collides`):
  exactly when the live and the stored paths that hold a line end are the same (`SameLineEnds`).
* `acceptance_unreliable` shows the condition fail: one stored path that holds a line end stands for
  two live files.

### What is load-bearing

A path may hold any character, so a path may hold the end of a line.  Only a path with a newline can
(`HoldsLineEnd.newline_mem`), which is why the condition never fails for usual names
(`agrees_or_collides_of_newline_free`).
-/

namespace QualityGate.Manifest

open QualityGate.ManifestEntry (HoldsLineEnd IsDigestText preimage)
open QualityGate.Text (Bytes)

variable {stored : Manifest} {files paths : List String} {read : Reader} {algorithm : Algorithm}

/-! ### What the comparison decides -/

theorem unreadableOf_eq_nil_iff :
    unreadableOf read paths = [] ↔ ∀ path ∈ paths, ∃ bytes, read path = .ok bytes := by
  rw [unreadableOf, List.filterMap_eq_nil_iff]
  refine forall₂_congr fun path _ => ?_
  cases read path <;> simp

theorem mem_readableOf_iff {entry : ManifestEntry} :
    entry ∈ readableOf read algorithm paths ↔ entry.path ∈ paths ∧
      ∃ bytes, read entry.path = .ok bytes ∧ algorithm.digest bytes = entry.digest := by
  obtain ⟨path, digest⟩ := entry
  rw [readableOf, List.mem_filterMap]
  constructor
  · rintro ⟨other, mem, found⟩
    unfold entryOf at found
    cases content : read other with
    | error error => simp [content, Except.map, Except.toOption] at found
    | ok bytes =>
      simp only [content, Except.map, Except.toOption, Option.some.injEq,
        ManifestEntry.mk.injEq] at found
      obtain ⟨rfl, rfl⟩ := found
      exact ⟨mem, bytes, content, rfl⟩
  · rintro ⟨mem, bytes, content, rfl⟩
    exact ⟨path, mem, by simp [entryOf, content, Except.map, Except.toOption]⟩

/-- When every file can be read there is an entry for each, in the same order. -/
theorem map_path_readableOf (readable : ∀ path ∈ paths, ∃ bytes, read path = .ok bytes) :
    (readableOf read algorithm paths).map (·.path) = paths := by
  induction paths with
  | nil => rfl
  | cons path paths ih =>
    obtain ⟨bytes, content⟩ := readable path List.mem_cons_self
    have head : (entryOf read algorithm path).toOption = some ⟨path, algorithm.digest bytes⟩ := by
      simp [entryOf, content, Except.map, Except.toOption]
    have rest := ih fun other mem => readable other (List.mem_cons_of_mem _ mem)
    simp only [readableOf, List.filterMap_cons, head, List.map_cons] at rest ⊢
    rw [rest]

/-- A manifest is accepted exactly when it is sound, has the expected algorithm, and the digest over
the entries of the live files, all of which can be read, is the stored one. -/
theorem checkDrift_eq_ok_iff :
    stored.checkDrift files read algorithm = .ok ↔
      stored.Sound ∧ stored.algorithm = algorithm ∧
        (∀ path ∈ normalSet files, ∃ bytes, read path = .ok bytes) ∧
        ManifestEntry.unitDigest algorithm (readableOf read algorithm (normalSet files))
          = stored.unitDigest := by
  rw [← problem?_eq_none_iff, ← unreadableOf_eq_nil_iff, checkDrift]
  cases stored.problem? with
  | some problem => simp
  | none =>
    by_cases same : stored.algorithm = algorithm
    · simp only [same, ne_eq, not_true_eq_false, if_false, true_and, List.isEmpty_iff]
      split
      · next accepted => exact ⟨fun _ => accepted, fun _ => rfl⟩
      · next rejected =>
        refine ⟨fun status => ?_, fun accepted => absurd accepted rejected⟩
        split at status <;> cases status
    · simp [same]

/-! ### What acceptance is taken to prove -/

/-- The live files are those of the manifest: they can all be read, their paths are the stored ones,
and every stored digest is the digest of what the file holds. -/
structure Agrees (stored : Manifest) (files : List String) (read : Reader)
    (algorithm : Algorithm) : Prop where
  readable : ∀ path ∈ normalSet files, ∃ bytes, read path = .ok bytes
  paths : ∀ path, path ∈ normalSet files ↔ path ∈ stored.files.map (·.path)
  digests : ∀ entry ∈ stored.files,
    ∃ bytes, read entry.path = .ok bytes ∧ algorithm.digest bytes = entry.digest

/-- What is digested in a comparison: the lines of the stored entries, the lines of the live ones,
and the contents of the live files. -/
def digested (stored : Manifest) (files : List String) (read : Reader) (algorithm : Algorithm) :
    List Bytes :=
  Text.Utf8.encode (preimage stored.files)
    :: Text.Utf8.encode (preimage (readableOf read algorithm (normalSet files)))
    :: (normalSet files).filterMap fun path => (read path).toOption

/-- Two different things that are digested in a comparison have the same digest. -/
def Collides (stored : Manifest) (files : List String) (read : Reader) (algorithm : Algorithm) :
    Prop :=
  ∃ a ∈ digested stored files read algorithm, ∃ b ∈ digested stored files read algorithm,
    a ≠ b ∧ algorithm.digest a = algorithm.digest b

/-- The live paths that hold a line end are the stored ones that do. -/
def SameLineEnds (stored : Manifest) (files : List String) (algorithm : Algorithm) : Prop :=
  ∀ path, HoldsLineEnd algorithm path →
    (path ∈ normalSet files ↔ path ∈ stored.files.map (·.path))

theorem Agrees.sameLineEnds (agrees : stored.Agrees files read algorithm) :
    stored.SameLineEnds files algorithm := fun path _ => agrees.paths path

/-- Without a collision the lines have the same text, and with the same line ends on both sides the
text determines the entries. -/
theorem agrees_or_collides (accepted : stored.checkDrift files read algorithm = .ok)
    (shared : stored.SameLineEnds files algorithm) :
    stored.Agrees files read algorithm ∨ stored.Collides files read algorithm := by
  obtain ⟨sound, rfl, readable, same⟩ := checkDrift_eq_ok_iff.mp accepted
  -- The stored digest is that of the stored entries, so two texts have the same digest.
  rw [← sound.unitDigest, ManifestEntry.unitDigest, ManifestEntry.unitDigest] at same
  by_cases bytes : Text.Utf8.encode (preimage (readableOf read stored.algorithm (normalSet files)))
      = Text.Utf8.encode (preimage stored.files)
  · left
    have livePaths : (readableOf read stored.algorithm (normalSet files)).map (·.path)
        = normalSet files := map_path_readableOf readable
    have forms : ∀ entry ∈ readableOf read stored.algorithm (normalSet files),
        IsDigestText stored.algorithm entry.digest.toList := by
      intro entry mem
      obtain ⟨-, content, -, digest⟩ := mem_readableOf_iff.mp mem
      rw [← ManifestEntry.isDigest_iff, ← digest]
      exact Algorithm.isDigest_digest _ _
    have perm : (readableOf read stored.algorithm (normalSet files)).Perm stored.files := by
      refine ManifestEntry.perm_of_preimage_eq forms
        (fun entry mem => ManifestEntry.isDigest_iff.mp (sound.entries entry mem).digest) ?_
        sound.distinct ?_ (Text.Utf8.encode_injective bytes)
      · rw [livePaths]
        exact Text.nodup_sortedSet _
      · rw [livePaths]
        exact shared
    refine ⟨readable, fun path => ?_, fun entry mem => ?_⟩
    · rw [← (perm.map (·.path)).mem_iff, livePaths]
    · exact (mem_readableOf_iff.mp (perm.mem_iff.mpr mem)).2
  · right
    exact ⟨_, List.mem_cons_of_mem _ List.mem_cons_self, _, List.mem_cons_self, bytes, same⟩

/-- **When acceptance is reliable.**  That a manifest is accepted proves that the files agree with
it, up to a collision, exactly when the live and the stored paths that hold a line end are the same:
then the text of the lines determines the entries, and otherwise the paths differ and the text does
not show it. -/
theorem acceptance_reliable_iff :
    (stored.checkDrift files read algorithm = .ok →
        stored.Agrees files read algorithm ∨ stored.Collides files read algorithm) ↔
      (stored.checkDrift files read algorithm = .ok →
        stored.SameLineEnds files algorithm ∨ stored.Collides files read algorithm) := by
  constructor
  · intro reliable accepted
    exact (reliable accepted).imp_left Agrees.sameLineEnds
  · intro shared accepted
    rcases shared accepted with shared | collision
    · exact agrees_or_collides accepted shared
    · exact Or.inr collision

/-- For paths without newlines acceptance is reliable. -/
theorem agrees_or_collides_of_newline_free
    (live : ∀ path ∈ normalSet files, '\n' ∉ path.toList)
    (known : ∀ path ∈ stored.files.map (·.path), '\n' ∉ path.toList)
    (accepted : stored.checkDrift files read algorithm = .ok) :
    stored.Agrees files read algorithm ∨ stored.Collides files read algorithm := by
  refine agrees_or_collides accepted fun path holds => ?_
  exact ⟨fun mem => absurd holds.newline_mem (live path mem),
    fun mem => absurd holds.newline_mem (known path mem)⟩

/-! ### A path that stands for two files -/

/-- The digest of an empty file. -/
def emptyDigest : String := "e3b0c44298fc1c149afbf4c8996fb92427ae41e4649b934ca495991b7852b855"

theorem digest_nil : Algorithm.sha256.digest [] = emptyDigest := by decide +kernel

/-- A manifest of a single empty file, whose path holds a line end between `a` and `b`. -/
def twoInOne : Manifest where
  unit := "u"
  algorithm := .sha256
  generatedAt := ⟨0, 0⟩
  unitDigest := "86ba1583b04cc992c06ba6bc18931092e48f3623770162f74167888cc2a34426"
  files := [⟨"a:" ++ emptyDigest ++ "\nb", emptyDigest⟩]

/-- Every file is there and empty. -/
def emptyFiles : Reader := fun _ => .ok []

theorem twoInOne_sound : twoInOne.Sound := by
  rw [← problem?_eq_none_iff]
  decide +kernel

/-- The only line of the manifest reads like the lines of two empty files `a` and `b`. -/
theorem preimage_twoInOne :
    preimage (readableOf emptyFiles .sha256 (normalSet ["a", "b"])) = preimage twoInOne.files := by
  have kept : (["a", "b"].map Path.normalize).filter (· ≠ "") = ["a", "b"] := by decide +kernel
  have live : normalSet ["a", "b"] = ["a", "b"] := by
    rw [normalSet, kept]
    exact List.mergeSort_of_pairwise (by decide)
  have entries : readableOf emptyFiles .sha256 ["a", "b"]
      = [⟨"a", emptyDigest⟩, ⟨"b", emptyDigest⟩] := by
    simp [readableOf, entryOf, emptyFiles, digest_nil, Except.map, Except.toOption]
  have apart : ManifestEntry.canonical [⟨"a", emptyDigest⟩, ⟨"b", emptyDigest⟩]
      = [⟨"a", emptyDigest⟩, ⟨"b", emptyDigest⟩] :=
    List.mergeSort_of_pairwise (by decide)
  have single : ManifestEntry.canonical twoInOne.files = twoInOne.files :=
    List.mergeSort_of_pairwise (by decide)
  rw [live, entries, ManifestEntry.preimage, ManifestEntry.preimage, apart, single]
  decide +kernel

/-- **Acceptance can be wrong.**  The manifest knows one file, the project has two others, nothing
collides, and the comparison accepts. -/
theorem acceptance_unreliable :
    twoInOne.checkDrift ["a", "b"] emptyFiles .sha256 = .ok ∧
      ¬ twoInOne.Agrees ["a", "b"] emptyFiles .sha256 ∧
      ¬ twoInOne.Collides ["a", "b"] emptyFiles .sha256 := by
  have digest : Algorithm.sha256.digest (Text.Utf8.encode (preimage twoInOne.files))
      = twoInOne.unitDigest := twoInOne_sound.unitDigest
  refine ⟨?_, ?_, ?_⟩
  · refine checkDrift_eq_ok_iff.mpr ⟨twoInOne_sound, rfl, fun path _ => ⟨[], rfl⟩, ?_⟩
    rw [ManifestEntry.unitDigest, preimage_twoInOne]
    exact digest
  · intro agrees
    have known := (agrees.paths "a").mp (by simp [normalSet]; decide)
    revert known
    decide
  · -- Only two texts are digested, the common text of the lines and the empty one.
    have contents : ∀ bytes ∈ digested twoInOne ["a", "b"] emptyFiles .sha256,
        bytes = Text.Utf8.encode (preimage twoInOne.files) ∨ bytes = [] := by
      intro bytes mem
      rw [digested, preimage_twoInOne, List.mem_cons, List.mem_cons, List.mem_filterMap] at mem
      rcases mem with lines | lines | ⟨path, -, content⟩
      · exact Or.inl lines
      · exact Or.inl lines
      · exact Or.inr (Option.some.inj content).symm
    have apart : twoInOne.unitDigest ≠ emptyDigest := by decide
    rintro ⟨a, memA, b, memB, different, same⟩
    rcases contents a memA with rfl | rfl <;> rcases contents b memB with rfl | rfl
    · exact different rfl
    · exact apart (digest.symm.trans (same.trans digest_nil))
    · exact apart (digest.symm.trans (same.symm.trans digest_nil))
    · exact different rfl

end QualityGate.Manifest
