import Mathlib.Data.List.Perm.Basic
import Mathlib.Data.List.Sort
import QualityGate.Manifest.Basic
import QualityGate.Proofs.Text.Order

/-!
# The text under a unit digest

The unit digest is taken over the lines `path:digest` of the canonical entries, so one digest stands
for a whole list of entries only as far as the entries can be read back from the text of their
lines.

A line ends with a colon, a digest and a newline.  Nothing keeps a path from containing all of that
itself, and then one line reads like several.  This module says exactly how much of the entries the
text determines:

* `canonical_perm` and `canonical_sorted`: the canonical entries are the entries in the order of
  their paths; `canonical_congr`: they depend only on the set of entries, and so does the digest
  over them (`unitDigest_congr`).
* `stems_flatMap_line`: cutting the text at every line end gives the *stems* of the paths, one after
  the other; a path without a line end is its own only stem (`stems_eq_singleton`).
* `perm_of_preimage_eq`: two lists of entries have the same text only if they have the same entries,
  as long as every path that holds a line end is a path of both or of neither.

### What is load-bearing

The stems are counted, not aligned.  Which stems belong to one path cannot be seen in the text, but
the paths that hold line ends contribute the same stems on both sides when they are the same paths,
so what is left are the other paths, each of them a stem.
-/

namespace QualityGate.ManifestEntry

open QualityGate.Text

variable {algorithm : Algorithm}

/-! ### Line ends -/

/-- A text in the form of a digest. -/
def IsDigestText (algorithm : Algorithm) (digest : List Char) : Prop :=
  digest.length = algorithm.hexLength ∧ ∀ c ∈ digest, Algorithm.isDigestChar c = true

theorem isDigest_iff {digest : String} :
    algorithm.isDigest digest = true ↔ IsDigestText algorithm digest.toList := by
  rw [Algorithm.isDigest, IsDigestText, Bool.and_eq_true, beq_iff_eq, List.all_eq_true,
    String.length_toList]

/-- A colon is no digit, so a digest ends where its digits end. -/
theorem IsDigestText.colon_notMem {digest : List Char} (form : IsDigestText algorithm digest) :
    ':' ∉ digest :=
  fun mem => absurd (form.2 _ mem) (by decide)

/-- The end of a line: a colon, a digest and a newline. -/
def lineEnd (digest : List Char) : List Char := ':' :: (digest ++ ['\n'])

theorem line_eq (entry : ManifestEntry) :
    line entry = entry.path.toList ++ lineEnd entry.digest.toList := rfl

/-- A path that holds the end of a line. -/
def HoldsLineEnd (algorithm : Algorithm) (path : String) : Prop :=
  ∃ before digest after, IsDigestText algorithm digest ∧
    path.toList = before ++ (lineEnd digest ++ after)

/-- Only a path with a newline holds the end of a line. -/
theorem HoldsLineEnd.newline_mem {path : String} (holds : HoldsLineEnd algorithm path) :
    '\n' ∈ path.toList := by
  obtain ⟨before, digest, after, -, whole⟩ := holds
  simp [whole, lineEnd]

/-- What follows the end of a line in a text that starts with one. -/
def afterLineEnd? (algorithm : Algorithm) : List Char → Option (List Char)
  | ':' :: text =>
    if algorithm.isDigest (String.ofList (text.take algorithm.hexLength)) then
      stripPrefix? ['\n'] (text.drop algorithm.hexLength)
    else none
  | _ => none

theorem afterLineEnd?_eq_some_iff {text after : List Char} :
    afterLineEnd? algorithm text = some after ↔
      ∃ digest, IsDigestText algorithm digest ∧ text = lineEnd digest ++ after := by
  constructor
  · intro found
    unfold afterLineEnd? at found
    split at found
    · next rest =>
      split at found
      · next form =>
        rw [isDigest_iff, String.toList_ofList] at form
        rw [stripPrefix?_eq_some_iff] at found
        refine ⟨_, form, ?_⟩
        rw [lineEnd, List.cons_append, List.append_assoc, ← found, List.take_append_drop]
      · cases found
    · cases found
  · rintro ⟨digest, form, rfl⟩
    have split : digest ++ ['\n'] ++ after = digest ++ '\n' :: after := by simp
    simp only [lineEnd, List.cons_append, split, afterLineEnd?]
    rw [← form.1, List.take_left, List.drop_left, if_pos]
    · simp [stripPrefix?]
    · rw [isDigest_iff, String.toList_ofList]
      exact form

/-- A line end that starts inside a text stops inside it: the colon after the text would be among
the digits of the digest. -/
theorem afterLineEnd?_append {text : List Char} (nonempty : text ≠ []) (rest : List Char) :
    afterLineEnd? algorithm (text ++ ':' :: rest)
      = (afterLineEnd? algorithm text).map (· ++ ':' :: rest) := by
  ext after
  rw [Option.map_eq_some_iff, afterLineEnd?_eq_some_iff]
  constructor
  · rintro ⟨digest, form, whole⟩
    obtain ⟨c, tail, rfl⟩ := List.exists_cons_of_ne_nil nonempty
    rw [lineEnd, List.cons_append, List.cons_append, List.append_assoc] at whole
    obtain ⟨rfl, inner⟩ := List.cons.inj whole
    rcases List.append_eq_append_iff.mp inner with ⟨left, rfl, colon⟩ | ⟨left, rfl, newline⟩
    · cases left with
      | nil => simp at colon
      | cons d left =>
        obtain ⟨rfl, -⟩ := List.cons.inj colon
        exact absurd (by simp) form.colon_notMem
    · cases left with
      | nil => simp at newline
      | cons d left =>
        obtain ⟨rfl, rfl⟩ := List.cons.inj newline
        exact ⟨left, afterLineEnd?_eq_some_iff.mpr ⟨digest, form, by simp [lineEnd]⟩, rfl⟩
  · rintro ⟨left, found, rfl⟩
    obtain ⟨digest, form, rfl⟩ := afterLineEnd?_eq_some_iff.mp found
    exact ⟨digest, form, by simp⟩

/-! ### Stems -/

/-- The pieces of a text between its line ends, one more than there are line ends. -/
def stems (algorithm : Algorithm) : List Char → List (List Char)
  | [] => [[]]
  | c :: text =>
    match _found : afterLineEnd? algorithm (c :: text) with
    | some after => [] :: stems algorithm after
    | none => (stems algorithm text).modifyHead (c :: ·)
termination_by text => text.length
decreasing_by
  · obtain ⟨digest, -, whole⟩ := afterLineEnd?_eq_some_iff.mp _found
    simp [whole, lineEnd]
    omega
  · simp

@[simp] theorem stems_nil : stems algorithm [] = [[]] := by rw [stems]

theorem stems_of_some {text after : List Char} (found : afterLineEnd? algorithm text = some after) :
    stems algorithm text = [] :: stems algorithm after := by
  cases text with
  | nil => simp [afterLineEnd?] at found
  | cons c text =>
    rw [stems]
    split <;> simp_all

theorem stems_of_none {c : Char} {text : List Char}
    (missing : afterLineEnd? algorithm (c :: text) = none) :
    stems algorithm (c :: text) = (stems algorithm text).modifyHead (c :: ·) := by
  rw [stems]
  split <;> simp_all

theorem stems_ne_nil (text : List Char) : stems algorithm text ≠ [] := by
  fun_induction stems algorithm text <;> simp_all

/-- A text up to the end of a line contributes its stems, and what follows contributes its own. -/
theorem stems_lineEnd {digest : List Char} (form : IsDigestText algorithm digest)
    (text rest : List Char) :
    stems algorithm (text ++ (lineEnd digest ++ rest))
      = stems algorithm text ++ stems algorithm rest := by
  fun_induction stems algorithm text with
  | case1 =>
    rw [List.nil_append, stems_of_some (afterLineEnd?_eq_some_iff.mpr ⟨digest, form, rfl⟩)]
    rfl
  | case2 c text after found ih =>
    -- The line end at the front is still there in the longer text, and the rest grows.
    have longer : afterLineEnd? algorithm (c :: (text ++ (lineEnd digest ++ rest)))
        = (afterLineEnd? algorithm (c :: text)).map (· ++ (lineEnd digest ++ rest)) :=
      afterLineEnd?_append (List.cons_ne_nil c text) _
    rw [found, Option.map_some] at longer
    rw [List.cons_append, stems_of_some longer, ih]
    rfl
  | case3 c text missing ih =>
    -- What follows brings no line end to the front: it would have to start inside the text.
    have longer : afterLineEnd? algorithm (c :: (text ++ (lineEnd digest ++ rest)))
        = (afterLineEnd? algorithm (c :: text)).map (· ++ (lineEnd digest ++ rest)) :=
      afterLineEnd?_append (List.cons_ne_nil c text) _
    rw [missing, Option.map_none] at longer
    rw [List.cons_append, stems_of_none longer, ih]
    cases cut : stems algorithm text with
    | nil => exact absurd cut (stems_ne_nil text)
    | cons stem more => rfl

/-- A path without a line end is its own only stem. -/
theorem stems_eq_singleton {path : String} (free : ¬ HoldsLineEnd algorithm path) :
    stems algorithm path.toList = [path.toList] := by
  have uncut : ∀ text : List Char, (∃ before, path.toList = before ++ text) →
      stems algorithm text = [text] := by
    intro text
    induction text with
    | nil => intro _; exact stems_nil
    | cons c text ih =>
      rintro ⟨before, whole⟩
      rw [stems_of_none, ih ⟨before ++ [c], by simp [whole]⟩]
      · rfl
      · rw [Option.eq_none_iff_forall_ne_some]
        intro after found
        obtain ⟨digest, form, split⟩ := afterLineEnd?_eq_some_iff.mp found
        exact free ⟨before, digest, after, form, by rw [whole, split]⟩
  exact uncut _ ⟨[], rfl⟩

/-- The stems of some lines are the stems of their paths, and an empty one at the end. -/
theorem stems_flatMap_line {entries : List ManifestEntry}
    (forms : ∀ entry ∈ entries, IsDigestText algorithm entry.digest.toList) :
    stems algorithm (entries.flatMap line)
      = entries.flatMap (fun entry => stems algorithm entry.path.toList) ++ [[]] := by
  induction entries with
  | nil => simp
  | cons entry entries ih =>
    rw [List.flatMap_cons, List.flatMap_cons, line_eq, List.append_assoc,
      stems_lineEnd (forms entry List.mem_cons_self),
      ih fun other mem => forms other (List.mem_cons_of_mem _ mem), List.append_assoc]

/-! ### The canonical entries -/

theorem path_le_of_before {a b : ManifestEntry} (ordered : before a b = true) :
    a.path ≤ b.path := by
  have first := Ordering.isLE_left_of_isLE_then ordered
  rw [Ordering.isLE_iff_eq_lt_or_eq_eq] at first
  rcases first with less | equal
  · exact (String.le_total _ _).resolve_right (String.not_le.mpr (compareOfLessAndEq_eq_lt.mp less))
  · have same : a.path = b.path := Std.LawfulEqOrd.eq_of_compare equal
    exact same ▸ String.le_refl a.path

theorem before_eq (a b : ManifestEntry) :
    before a b = (compareLex (compareOn (·.path)) (compareOn (·.digest)) a b).isLE := rfl

theorem before_trans (a b c : ManifestEntry) (first : before a b = true)
    (second : before b c = true) : before a c = true := by
  rw [before_eq] at first second ⊢
  exact Std.TransCmp.isLE_trans first second

theorem before_total (a b : ManifestEntry) : (before a b || before b a) = true := by
  have swapped : compareLex (compareOn (·.path)) (compareOn (·.digest)) b a
      = (compareLex (compareOn (·.path)) (compareOn (·.digest)) a b).swap :=
    Std.OrientedCmp.eq_swap
  rw [before_eq, before_eq, swapped]
  cases compareLex (compareOn (·.path)) (compareOn (·.digest)) a b <;> rfl

/-- The canonical entries come in the order of their paths. -/
theorem canonical_sorted (entries : List ManifestEntry) :
    ((canonical entries).map (·.path)).Pairwise (· ≤ ·) := by
  rw [List.pairwise_map]
  exact (List.pairwise_mergeSort before_trans before_total _).imp path_le_of_before

/-- Two entries that may stand either way round are the same. -/
theorem before_antisymm {a b : ManifestEntry} (first : before a b = true)
    (second : before b a = true) : a = b := by
  rw [before_eq] at first second
  have tie : compareLex (compareOn (·.path)) (compareOn (·.digest)) a b = .eq :=
    Std.OrientedCmp.isLE_antisymm first second
  obtain ⟨path, digest⟩ := Ordering.then_eq_eq.mp tie
  cases a
  cases b
  rw [mk.injEq]
  exact ⟨Std.LawfulEqOrd.eq_of_compare path, Std.LawfulEqOrd.eq_of_compare digest⟩

/-- The canonical entries depend only on the set of entries. -/
theorem canonical_congr {a b : List ManifestEntry} (same : ∀ entry, entry ∈ a ↔ entry ∈ b) :
    canonical a = canonical b := by
  have perm : (canonical a).Perm (canonical b) := by
    refine (List.mergeSort_perm _ _).trans (List.Perm.trans ?_ (List.mergeSort_perm _ _).symm)
    refine (List.perm_ext_iff_of_nodup (nodup_eraseDups a) (nodup_eraseDups b)).mpr ?_
    intro entry
    rw [List.mem_eraseDups, List.mem_eraseDups, same]
  exact perm.eq_of_pairwise (fun _ _ _ _ => before_antisymm)
    (List.pairwise_mergeSort before_trans before_total _)
    (List.pairwise_mergeSort before_trans before_total _)

/-- So does the digest over them. -/
theorem unitDigest_congr {a b : List ManifestEntry} (same : ∀ entry, entry ∈ a ↔ entry ∈ b)
    (algorithm : Algorithm) : unitDigest algorithm a = unitDigest algorithm b := by
  rw [unitDigest, unitDigest, preimage, preimage, canonical_congr same]

/-- Entries without repetitions are only rearranged. -/
theorem canonical_perm {entries : List ManifestEntry} (distinct : entries.Nodup) :
    (canonical entries).Perm entries :=
  (List.mergeSort_perm _ _).trans (eraseDups_perm distinct)

/-! ### Reading the entries back -/

/-- The paths that hold line ends contribute the same stems on both sides, and every other path is
a stem, so stems determine the paths. -/
theorem paths_perm_of_stems_perm {a b : List String} (distinctA : a.Nodup) (distinctB : b.Nodup)
    (shared : ∀ path, HoldsLineEnd algorithm path → (path ∈ a ↔ path ∈ b))
    (same : (a.flatMap fun path => stems algorithm path.toList).Perm
      (b.flatMap fun path => stems algorithm path.toList)) : a.Perm b := by
  classical
  let holds : String → Bool := fun path => decide (HoldsLineEnd algorithm path)
  let cut : String → List (List Char) := fun path => stems algorithm path.toList
  have split : ∀ paths : List String, (paths.flatMap cut).Perm
      ((paths.filter holds).flatMap cut ++ (paths.filter (! holds ·)).map String.toList) := by
    intro paths
    have whole : ∀ path ∈ paths.filter (! holds ·), cut path = [path.toList] := by
      intro path mem
      exact stems_eq_singleton (by simpa [holds] using (List.mem_filter.mp mem).2)
    rw [← List.flatMap_singleton' ((paths.filter (! holds ·)).map String.toList),
      List.flatMap_map, ← List.flatMap_congr whole, ← List.flatMap_append]
    exact (List.filter_append_perm holds paths).symm.flatMap_right cut
  -- The paths that hold line ends are the same, so what they contribute cancels.
  have holding : (a.filter holds).Perm (b.filter holds) := by
    refine (List.perm_ext_iff_of_nodup (distinctA.filter _) (distinctB.filter _)).mpr fun path => ?_
    simp only [List.mem_filter, holds, decide_eq_true_eq]
    exact ⟨fun mem => ⟨(shared path mem.2).mp mem.1, mem.2⟩,
      fun mem => ⟨(shared path mem.2).mpr mem.1, mem.2⟩⟩
  have free : (a.filter (! holds ·)).Perm (b.filter (! holds ·)) := by
    have both := ((split a).symm.trans same).trans (split b)
    have rest := (List.perm_append_left_iff _).mp
      (both.trans ((holding.flatMap_right cut).symm.append_right _))
    exact (List.map_perm_map_iff fun _ _ => String.toList_inj.mp).mp rest
  exact (List.filter_append_perm holds a).symm.trans
    ((holding.append free).trans (List.filter_append_perm holds b))

/-- Digests of one length are read back when the paths are known. -/
theorem eq_of_flatMap_line_eq {a b : List ManifestEntry}
    (formsA : ∀ entry ∈ a, IsDigestText algorithm entry.digest.toList)
    (formsB : ∀ entry ∈ b, IsDigestText algorithm entry.digest.toList)
    (paths : a.map (·.path) = b.map (·.path)) (same : a.flatMap line = b.flatMap line) : a = b := by
  induction a generalizing b with
  | nil =>
    cases b with
    | nil => rfl
    | cons entry b => simp at paths
  | cons entry a ih =>
    cases b with
    | nil => simp at paths
    | cons other b =>
      obtain ⟨path, paths⟩ := List.cons.inj paths
      have lengths : entry.digest.toList.length = other.digest.toList.length :=
        (formsA entry List.mem_cons_self).1.trans (formsB other List.mem_cons_self).1.symm
      -- The path is shared, and the digests are texts of one length at the same place.
      rw [List.flatMap_cons, List.flatMap_cons, line_eq, line_eq] at same
      rw [show entry.path = other.path from path, List.append_assoc, List.append_assoc] at same
      have ends := List.append_cancel_left same
      rw [lineEnd, lineEnd, List.cons_append, List.cons_append, List.append_assoc,
        List.append_assoc] at ends
      obtain ⟨digest, rest⟩ := List.append_inj (List.cons.inj ends).2 lengths
      rw [ih (fun e mem => formsA e (List.mem_cons_of_mem _ mem))
        (fun e mem => formsB e (List.mem_cons_of_mem _ mem)) paths (List.append_cancel_left rest)]
      cases entry
      cases other
      simp_all [String.toList_inj]

/-- **The text determines the entries** up to which paths hold line ends.  Both lists are the same
once the paths that hold line ends are. -/
theorem perm_of_preimage_eq {a b : List ManifestEntry}
    (formsA : ∀ entry ∈ a, IsDigestText algorithm entry.digest.toList)
    (formsB : ∀ entry ∈ b, IsDigestText algorithm entry.digest.toList)
    (distinctA : (a.map (·.path)).Nodup) (distinctB : (b.map (·.path)).Nodup)
    (shared : ∀ path, HoldsLineEnd algorithm path →
      (path ∈ a.map (·.path) ↔ path ∈ b.map (·.path)))
    (same : preimage a = preimage b) : a.Perm b := by
  have permA := canonical_perm distinctA.of_map
  have permB := canonical_perm distinctB.of_map
  have formsA' : ∀ entry ∈ canonical a, IsDigestText algorithm entry.digest.toList :=
    fun entry mem => formsA entry (permA.mem_iff.mp mem)
  have formsB' : ∀ entry ∈ canonical b, IsDigestText algorithm entry.digest.toList :=
    fun entry mem => formsB entry (permB.mem_iff.mp mem)
  have stemsEq : ((canonical a).map (·.path)).flatMap (fun path => stems algorithm path.toList)
      = ((canonical b).map (·.path)).flatMap (fun path => stems algorithm path.toList) := by
    have cut := congrArg (stems algorithm) same
    rw [preimage, preimage, stems_flatMap_line formsA', stems_flatMap_line formsB'] at cut
    rw [List.flatMap_map, List.flatMap_map]
    exact List.append_cancel_right cut
  have pathsA := permA.map (·.path)
  have pathsB := permB.map (·.path)
  have paths := paths_perm_of_stems_perm (pathsA.symm.nodup distinctA) (pathsB.symm.nodup distinctB)
    (fun path holds => (pathsA.mem_iff.trans (shared path holds)).trans pathsB.mem_iff.symm)
    (List.Perm.of_eq stemsEq)
  -- Both lists of paths are in order, so they are the same list and the digests can be compared.
  have ordered := paths.eq_of_pairwise (fun _ _ _ _ => String.le_antisymm) (canonical_sorted a)
    (canonical_sorted b)
  have canonicalEq := eq_of_flatMap_line_eq formsA' formsB' ordered same
  exact permA.symm.trans (canonicalEq ▸ permB)

end QualityGate.ManifestEntry
