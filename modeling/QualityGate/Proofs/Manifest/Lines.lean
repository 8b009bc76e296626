import Mathlib.Data.List.Destutter
import QualityGate.Proofs.Manifest.Preimage
import QualityGate.Proofs.Text.Utf8

/-!
# One text for one set of entries

The unit digest is taken over the lines of the canonical entries.  For paths without a newline this
text stands for the set of entries and for nothing else: it does not depend on how the entries are
listed, and they can be read back from it.

* `canonical_eq_destutter` – the canonical entries are what is left when the entries are sorted and
  every entry that repeats the one before it is dropped.
* `eq_of_lines_eq` – entries are read back from their lines, whatever paths they share.
* `preimage_decodes` – lists with the same set of entries have the same digest, and lists with the
  same text have the same set of entries.

### What is load-bearing

A line ends with a colon, a digest and a newline, and a path without a newline cannot hold the end
of a line, however many colons it has.  So the text is cut exactly between the entries.
-/

namespace QualityGate.ManifestEntry

open QualityGate.Text

variable {algorithm : Algorithm}

/-- Sorting puts repeated entries next to each other, so it is enough to look at neighbours. -/
theorem canonical_eq_destutter (entries : List ManifestEntry) :
    canonical entries = (entries.mergeSort before).destutter (· ≠ ·) := by
  have sorted := List.pairwise_mergeSort before_trans before_total entries
  have antisymm : Std.Antisymm fun a b => before a b = true := ⟨fun _ _ => before_antisymm⟩
  rw [sorted.destutter_eq_dedup]
  have perm : (canonical entries).Perm (entries.mergeSort before).dedup := by
    refine (List.perm_ext_iff_of_nodup ?_ (List.nodup_dedup _)).mpr fun entry => ?_
    · exact (List.mergeSort_perm _ _).symm.nodup (nodup_eraseDups entries)
    · rw [List.mem_dedup, canonical, List.mem_mergeSort, List.mem_mergeSort, List.mem_eraseDups]
  exact perm.eq_of_pairwise (fun _ _ _ _ => before_antisymm)
    (List.pairwise_mergeSort before_trans before_total _) (sorted.sublist (List.dedup_sublist _))

theorem mem_canonical {entry : ManifestEntry} {entries : List ManifestEntry} :
    entry ∈ canonical entries ↔ entry ∈ entries := by
  rw [canonical, List.mem_mergeSort, List.mem_eraseDups]

/-- An entry whose line has only one newline, at its end. -/
def IsOneLine (algorithm : Algorithm) (entry : ManifestEntry) : Prop :=
  '\n' ∉ entry.path.toList ∧ algorithm.isDigest entry.digest = true

section Lines

variable {a b entries : List ManifestEntry}

theorem forms_of_oneLine (oneLine : ∀ entry ∈ entries, IsOneLine algorithm entry) :
    ∀ entry ∈ entries, IsDigestText algorithm entry.digest.toList :=
  fun entry mem => isDigest_iff.mp (oneLine entry mem).2

/-- A path without a newline is all that stands between the ends of two lines. -/
theorem stems_of_oneLine (oneLine : ∀ entry ∈ entries, IsOneLine algorithm entry) :
    stems algorithm (entries.flatMap line) = entries.map (·.path.toList) ++ [[]] := by
  have single : ∀ entry ∈ entries, stems algorithm entry.path.toList = [entry.path.toList] :=
    fun entry mem => stems_eq_singleton fun holds => (oneLine entry mem).1 holds.newline_mem
  rw [stems_flatMap_line (forms_of_oneLine oneLine), List.flatMap_congr single,
    List.map_eq_flatMap]

/-- Entries are read back from their lines: the paths first, and then the digests. -/
theorem eq_of_lines_eq (oneLineA : ∀ entry ∈ a, IsOneLine algorithm entry)
    (oneLineB : ∀ entry ∈ b, IsOneLine algorithm entry) (same : a.flatMap line = b.flatMap line) :
    a = b := by
  have paths := congrArg (stems algorithm) same
  rw [stems_of_oneLine oneLineA, stems_of_oneLine oneLineB, List.append_cancel_right_eq] at paths
  have strings := congrArg (List.map String.ofList) paths
  simp only [List.map_map, Function.comp_def, String.ofList_toList] at strings
  exact eq_of_flatMap_line_eq (forms_of_oneLine oneLineA) (forms_of_oneLine oneLineB) strings same

end Lines

/-- **One text for one set of entries.**  What is hashed is the text of the entries in order, each
once.  Lists with the same set of entries have the same digest, and for lists of entries on one line
each the same text is hashed only if they have the same set of entries. -/
theorem preimage_decodes (algorithm : Algorithm) (a b : List ManifestEntry) :
    unitDigest algorithm a = algorithm.digest (Utf8.encode (preimage a)) ∧
      preimage a = ((a.mergeSort before).destutter (· ≠ ·)).flatMap line ∧
      ((∀ entry, entry ∈ a ↔ entry ∈ b) → unitDigest algorithm a = unitDigest algorithm b) ∧
      ((∀ entry ∈ a ++ b, '\n' ∉ entry.path.toList ∧ algorithm.isDigest entry.digest = true) →
        Utf8.encode (preimage a) = Utf8.encode (preimage b) →
          ∀ entry, entry ∈ a ↔ entry ∈ b) := by
  refine ⟨rfl, ?_, fun same => unitDigest_congr same algorithm, fun oneLine same entry => ?_⟩
  · rw [preimage, canonical_eq_destutter]
  · have lines : (canonical a).flatMap line = (canonical b).flatMap line :=
      Utf8.encode_injective same
    have oneLineA : ∀ entry ∈ canonical a, IsOneLine algorithm entry :=
      fun e mem => oneLine e (List.mem_append_left _ (mem_canonical.mp mem))
    have oneLineB : ∀ entry ∈ canonical b, IsOneLine algorithm entry :=
      fun e mem => oneLine e (List.mem_append_right _ (mem_canonical.mp mem))
    have entries : canonical a = canonical b := eq_of_lines_eq oneLineA oneLineB lines
    rw [← mem_canonical, entries, mem_canonical]

/-- A text in the form of a digest. -/
def someDigest : String := "e3b0c44298fc1c149afbf4c8996fb92427ae41e4649b934ca495991b7852b855"

/-- A path, and another one that looks like the first with its digest, repeated and out of order. -/
def shuffled : List ManifestEntry :=
  [⟨"a:" ++ someDigest, someDigest⟩, ⟨"a", someDigest⟩, ⟨"a:" ++ someDigest, someDigest⟩]

/-- The same entries, each once. -/
def listed : List ManifestEntry := [⟨"a", someDigest⟩, ⟨"a:" ++ someDigest, someDigest⟩]

theorem preimage_decodes_shuffled :
    (∀ entry ∈ shuffled ++ listed,
        '\n' ∉ entry.path.toList ∧ Algorithm.sha256.isDigest entry.digest = true) ∧
      unitDigest .sha256 shuffled = Algorithm.sha256.digest (Utf8.encode (preimage shuffled)) ∧
      Utf8.encode (preimage shuffled) = Utf8.encode (preimage listed) ∧
      (∀ entry, entry ∈ shuffled ↔ entry ∈ listed) ∧
      unitDigest .sha256 shuffled = unitDigest .sha256 listed := by
  have same : ∀ entry, entry ∈ shuffled ↔ entry ∈ listed := by
    intro entry
    simp only [shuffled, listed, List.mem_cons, List.not_mem_nil, or_false]
    tauto
  have text : Utf8.encode (preimage shuffled) = Utf8.encode (preimage listed) := by
    rw [preimage, preimage, canonical_congr same]
  have forms : ∀ entry ∈ shuffled ++ listed,
      '\n' ∉ entry.path.toList ∧ Algorithm.sha256.isDigest entry.digest = true := by
    decide +kernel
  obtain ⟨hashed, -, digests, decodes⟩ := preimage_decodes .sha256 shuffled listed
  exact ⟨forms, hashed, text, decodes forms text, digests same⟩

end QualityGate.ManifestEntry
