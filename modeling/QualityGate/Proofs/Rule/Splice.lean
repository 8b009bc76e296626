import QualityGate.Proofs.Text.Boundary
import QualityGate.Proofs.Text.Utf8
import QualityGate.Rule.Fix

/-!
# Making edits

The edits of a text are applied from left to right, and one that begins inside an earlier one is
left out.  `chosen` says which edits are applied, and `Spliced` what the text is then: the pieces
that the edits stand for are replaced, and all that is between them is kept.

When every edit stands for a piece of the text that is not empty, nothing else is left out
(`applied?_eq`).  The applied edits are disjoint (`pairwise_chosen`), and every other one overlaps an
applied one that may stand before it (`mem_chosen_or_overlaps`).
-/

namespace QualityGate.Edit

open QualityGate.Text

/-! ### The edits that are applied -/

/-- The edits of a list that are applied from an offset on. -/
def chosen : Nat → List Edit → List Edit
  | _, [] => []
  | cursor, edit :: edits =>
    if edit.start < cursor then chosen cursor edits else edit :: chosen edit.stop edits

/-- Two edits have a byte in common, when neither is empty. -/
def Overlaps (a b : Edit) : Prop :=
  a.start < b.stop ∧ b.start < a.stop

theorem before_iff {a b : Edit} :
    a.before b = true ↔ a.start < b.start ∨ a.start = b.start ∧ a.stop ≤ b.stop := by
  rw [before, Ordering.isLE_then_iff_and, Nat.isLE_compare, Nat.compare_eq_lt, Nat.isLE_compare]
  omega

theorem before_total (a b : Edit) : (a.before b || b.before a) = true := by
  rw [Bool.or_eq_true, before_iff, before_iff]
  omega

theorem before_trans (a b c : Edit) (first : a.before b = true) (second : b.before c = true) :
    a.before c = true := by
  rw [before_iff] at *
  omega

theorem chosen_sublist (cursor : Nat) (edits : List Edit) : (chosen cursor edits).Sublist edits := by
  fun_induction chosen cursor edits with
  | case1 => exact List.Sublist.slnil
  | case2 cursor edit edits inside ih => exact ih.cons edit
  | case3 cursor edit edits behind ih => exact ih.cons_cons edit

section Disjoint

variable {edits : List Edit} (ordered : ∀ edit ∈ edits, edit.start ≤ edit.stop)

include ordered

theorem le_start_of_mem_chosen {cursor : Nat} {edit : Edit} (mem : edit ∈ chosen cursor edits) :
    cursor ≤ edit.start := by
  induction edits generalizing cursor with
  | nil => cases mem
  | cons first edits ih =>
    obtain ⟨forward, ordered⟩ := List.forall_mem_cons.mp ordered
    rw [chosen] at mem
    split at mem
    · exact ih ordered mem
    · next behind =>
      have behind := Nat.not_lt.mp behind
      rcases List.mem_cons.mp mem with rfl | mem
      · exact behind
      · exact Nat.le_trans (Nat.le_trans behind forward) (ih ordered mem)

/-- The applied edits are disjoint, from left to right. -/
theorem pairwise_chosen (cursor : Nat) :
    (chosen cursor edits).Pairwise fun a b => a.stop ≤ b.start := by
  induction edits generalizing cursor with
  | nil => exact List.Pairwise.nil
  | cons first edits ih =>
    have ordered := (List.forall_mem_cons.mp ordered).2
    rw [chosen]
    split
    · exact ih ordered cursor
    · exact List.pairwise_cons.mpr
        ⟨fun later mem => le_start_of_mem_chosen ordered mem, ih ordered first.stop⟩

end Disjoint

/-- An edit of a sorted list is applied, or it begins before the offset or inside of an applied one
that may stand before it. -/
theorem mem_chosen_or_lt {edits : List Edit} (sorted : edits.Pairwise fun a b => a.before b = true)
    (cursor : Nat) {edit : Edit} (mem : edit ∈ edits) :
    edit ∈ chosen cursor edits ∨ edit.start < cursor ∨
      ∃ applied ∈ chosen cursor edits, applied.before edit = true ∧ edit.start < applied.stop := by
  induction edits generalizing cursor with
  | nil => cases mem
  | cons first edits ih =>
    obtain ⟨least, sorted⟩ := List.pairwise_cons.mp sorted
    rw [chosen]
    split
    · next inside =>
      rcases List.mem_cons.mp mem with rfl | mem
      · exact Or.inr (Or.inl inside)
      · exact ih sorted cursor mem
    · rcases List.mem_cons.mp mem with rfl | mem
      · exact Or.inl List.mem_cons_self
      · rcases ih sorted first.stop mem with same | inside | ⟨applied, among, earlier, inside⟩
        · exact Or.inl (List.mem_cons_of_mem _ same)
        · exact Or.inr (Or.inr ⟨first, List.mem_cons_self, least edit mem, inside⟩)
        · exact Or.inr (Or.inr ⟨applied, List.mem_cons_of_mem _ among, earlier, inside⟩)

/-- **Nothing is left out without need.**  An edit of a sorted list is applied, or it overlaps an
applied one that may stand before it. -/
theorem mem_chosen_or_overlaps {edits : List Edit}
    (sorted : edits.Pairwise fun a b => a.before b = true) {edit : Edit} (mem : edit ∈ edits)
    (nonempty : edit.start < edit.stop) :
    edit ∈ chosen 0 edits ∨
      ∃ applied ∈ chosen 0 edits, applied.before edit = true ∧ applied.Overlaps edit := by
  rcases mem_chosen_or_lt sorted 0 mem with same | inside | ⟨applied, among, earlier, inside⟩
  · exact Or.inl same
  · exact absurd inside (Nat.not_lt_zero _)
  · refine Or.inr ⟨applied, among, earlier, ?_, inside⟩
    have first := before_iff.mp earlier
    omega

/-- An edit that begins inside an applied one is left out, and one that begins at its end is not. -/
example : chosen 0 [⟨0, 3, []⟩, ⟨2, 4, []⟩, ⟨3, 5, []⟩] = [⟨0, 3, []⟩, ⟨3, 5, []⟩] := by decide

/-! ### The text with the edits made -/

/-- An edit of a text stands for a piece of it that is not empty. -/
def Replaces (text : List Char) (edit : Edit) (piece : List Char) : Prop :=
  piece ≠ [] ∧ ∃ before after, text = before ++ (piece ++ after) ∧
    edit.start = (Utf8.encode before).length ∧ edit.stop = (Utf8.encode (before ++ piece)).length

/-- The text from an offset on, and what it is with these edits made: every edit replaces a piece,
and what is before, between and after the pieces is kept. -/
inductive Spliced : Nat → List Char → List Edit → List Char → Prop
  | done (offset : Nat) (text : List Char) : Spliced offset text [] text
  | replaced {offset : Nat} {edit : Edit} {edits : List Edit} {kept piece rest new : List Char}
      (start : edit.start = offset + (Utf8.encode kept).length)
      (stop : edit.stop = edit.start + (Utf8.encode piece).length)
      (later : Spliced edit.stop rest edits new) :
      Spliced offset (kept ++ (piece ++ rest)) (edit :: edits) (kept ++ (edit.text ++ new))

theorem Replaces.start_lt_stop {text piece : List Char} {edit : Edit}
    (replaces : edit.Replaces text piece) : edit.start < edit.stop := by
  obtain ⟨nonempty, before, after, -, start, stop⟩ := replaces
  have some := Utf8.length_encode_pos nonempty
  rw [start, stop, Utf8.encode_append, List.length_append]
  omega

/-- An edit that stands for a piece of the text begins and ends between characters. -/
theorem Replaces.fits {text piece : List Char} {edit : Edit} (replaces : edit.Replaces text piece) :
    edit.fits (Utf8.encode text) = true := by
  have forward := replaces.start_lt_stop
  obtain ⟨-, before, after, rfl, start, stop⟩ := replaces
  have first := Utf8.isBoundary_encode_append before (piece ++ after)
  have last := Utf8.isBoundary_encode_append (before ++ piece) after
  rw [List.append_assoc] at last
  rw [Edit.fits, Bool.and_eq_true, Bool.and_eq_true, decide_eq_true_iff]
  exact ⟨⟨Nat.le_of_lt forward, by rw [start]; exact first⟩, by rw [stop]; exact last⟩

/-- **The splice.**  Edits that stand for pieces of the text are made, as many as are chosen, and no
character is cut. -/
theorem exists_splice? {edits : List Edit} {done rest : List Char}
    (pieces : ∀ edit ∈ edits, ∃ piece, edit.Replaces (done ++ rest) piece) :
    ∃ new, Spliced (Utf8.encode done).length rest (chosen (Utf8.encode done).length edits) new ∧
      splice? (Utf8.encode (done ++ rest)) (Utf8.encode done).length edits =
        some (Utf8.encode new, (chosen (Utf8.encode done).length edits).length) := by
  induction edits generalizing done rest with
  | nil =>
    have kept := Utf8.slice?_encode_append done rest []
    rw [List.append_nil] at kept
    exact ⟨rest, .done _ _, by rw [splice?, kept]; rfl⟩
  | cons edit edits ih =>
    obtain ⟨⟨piece, replaces⟩, others⟩ := List.forall_mem_cons.mp pieces
    by_cases inside : edit.start < (Utf8.encode done).length
    · rw [chosen, splice?, if_pos inside, if_pos inside]
      exact ih others
    · -- The piece lies behind what is done, and what is between them is kept.
      obtain ⟨-, before, after, whole, start, stop⟩ := replaces
      obtain ⟨kept, rfl, rfl⟩ := Utf8.exists_eq_append_of_length_le whole (by omega)
      have split : done ++ (kept ++ (piece ++ after)) = done ++ kept ++ piece ++ after := by
        simp only [List.append_assoc]
      rw [split] at others
      obtain ⟨new, spliced, made⟩ := ih others
      rw [← stop] at spliced made
      refine ⟨kept ++ (edit.text ++ new), ?_, ?_⟩
      · rw [chosen, if_neg inside]
        refine .replaced ?_ ?_ spliced
        · rw [start, Utf8.encode_append, List.length_append]
        · rw [stop, start, Utf8.encode_append (done ++ kept), List.length_append]
      · rw [chosen, splice?, if_neg inside, if_neg inside, start, Utf8.slice?_encode_append, split,
          made, Utf8.encode_append, Utf8.encode_append]
        rfl

/-- The text with the edits of a list made, each of which stands for a piece of it. -/
theorem applied?_eq {edits : List Edit} {text : List Char}
    (pieces : ∀ edit ∈ edits, ∃ piece, edit.Replaces text piece) :
    ∃ new, Spliced 0 text (chosen 0 (edits.mergeSort before)) new ∧
      applied? (Utf8.encode text) edits =
        if chosen 0 (edits.mergeSort before) = [] ∨ new = text then none
        else some (Utf8.encode new, (chosen 0 (edits.mergeSort before)).length) := by
  have all : edits.filter (fits (Utf8.encode text)) = edits := by
    refine List.filter_eq_self.mpr fun edit mem => ?_
    obtain ⟨piece, replaces⟩ := pieces edit mem
    exact replaces.fits
  have sorted : ∀ edit ∈ edits.mergeSort before, ∃ piece, edit.Replaces ([] ++ text) piece :=
    fun edit mem => pieces edit (List.mem_mergeSort.mp mem)
  obtain ⟨new, spliced, made⟩ := exists_splice? sorted
  rw [Utf8.encode_nil, List.length_nil] at spliced made
  rw [List.nil_append] at made
  refine ⟨new, spliced, ?_⟩
  -- Texts differ exactly if their bytes do.
  have changed : Utf8.encode new ≠ Utf8.encode text ↔ new ≠ text :=
    not_congr ⟨Utf8.encode_injective, congrArg Utf8.encode⟩
  rw [applied?, all, made]
  simp only [Option.bind_eq_bind, Option.bind_some, changed, List.length_pos_iff, ← not_or,
    ite_not]

end QualityGate.Edit
