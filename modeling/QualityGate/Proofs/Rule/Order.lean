import Mathlib.Data.Prod.Lex
import Mathlib.Data.List.Perm.Basic
import QualityGate.Proofs.Path.Order
import QualityGate.Rule.Violation

/-!
# Violations in order

A report lists violations by their `place`, which is a file and a line.  The sort is stable, so the
violations of one place stay in the order in which they came (`atPlace_sort`), and a list in order
is determined by the violations at every place (`sublist_of_atPlace`, `eq_of_atPlace_eq`).  From
this follows how a report depends on what was found.

* `filter_sort` – leaving violations out before or after sorting makes no difference.
* `sort_sublist` – the report of fewer violations is part of the report of all.
-/

namespace QualityGate.Violation

variable {a b : Violation} {vs ws : List Violation}

/-- A file and a line, ordered by the components of the file and then by the line. -/
abbrev Place := List (List ℕ) ×ₗ ℕ

/-- Where a violation is. -/
def place (v : Violation) : Place := toLex (Path.key v.file, v.line)

theorem place_le_iff : a.place ≤ b.place ↔
    Path.key a.file < Path.key b.file ∨ Path.key a.file = Path.key b.file ∧ a.line ≤ b.line :=
  Prod.Lex.le_iff

theorem place_eq_iff {p : Place} :
    a.place = p ↔ Path.key a.file = (ofLex p).1 ∧ a.line = (ofLex p).2 :=
  Prod.ext_iff

theorem before_iff : a.before b = true ↔ a.place ≤ b.place := by
  rw [before, Ordering.isLE_then_iff_or, Path.order_eq_lt_iff, Path.order_eq_eq_iff,
    Nat.isLE_compare, place_le_iff]

theorem before_total (a b : Violation) : (a.before b || b.before a) = true := by
  rw [Bool.or_eq_true, before_iff, before_iff]
  exact le_total a.place b.place

theorem before_trans (a b c : Violation) (first : a.before b = true) (second : b.before c = true) :
    a.before c = true := by
  rw [before_iff] at *
  exact first.trans second

/-! ### The violations of a place -/

/-- The violations of a list that are at a place. -/
def atPlace (p : Place) (vs : List Violation) : List Violation := vs.filter (·.place = p)

@[simp] theorem mem_atPlace_iff {p : Place} : a ∈ atPlace p vs ↔ a ∈ vs ∧ a.place = p := by
  rw [atPlace, List.mem_filter, decide_eq_true_eq]

/-- The violations of a place are those of the file, of which those of the line are left. -/
theorem atPlace_eq (p : Place) (vs : List Violation) : atPlace p vs =
    (vs.filter (Path.key ·.file = (ofLex p).1)).filter (·.line = (ofLex p).2) := by
  rw [atPlace, List.filter_filter]
  refine List.filter_congr fun v _ => ?_
  rw [← Bool.decide_and, decide_eq_decide, place_eq_iff, and_comm]

theorem atPlace_cons_self (a : Violation) (vs : List Violation) :
    atPlace a.place (a :: vs) = a :: atPlace a.place vs :=
  List.filter_cons_of_pos (decide_eq_true rfl)

theorem atPlace_cons_of_ne {p : Place} (other : a.place ≠ p) (vs : List Violation) :
    atPlace p (a :: vs) = atPlace p vs :=
  List.filter_cons_of_neg (mt of_decide_eq_true other)

/-! ### Lists in order -/

/-- The violations are listed by file and line. -/
def InOrder (vs : List Violation) : Prop := vs.Pairwise fun a b => a.place ≤ b.place

theorem inOrder_sort (vs : List Violation) : InOrder (sort vs) :=
  (List.pairwise_mergeSort before_trans before_total vs).imp before_iff.mp

theorem sort_perm (vs : List Violation) : (sort vs).Perm vs := List.mergeSort_perm vs before

/-- The violations of one place stay in the order in which they came. -/
theorem atPlace_sort (p : Place) (vs : List Violation) : atPlace p (sort vs) = atPlace p vs := by
  -- Violations of one place may stand in any order, so the sort has no reason to move them.
  have level : (atPlace p vs).Pairwise fun a b => a.before b = true := by
    refine List.pairwise_of_forall_mem_list fun a memA b memB => ?_
    rw [before_iff, (mem_atPlace_iff.mp memA).2, (mem_atPlace_iff.mp memB).2]
  have kept := (List.sublist_mergeSort before_trans before_total level List.filter_sublist).filter
    (·.place = p)
  simp only [atPlace, List.filter_filter, Bool.and_self] at kept
  exact (kept.eq_of_length ((sort_perm vs).filter _).length_eq.symm).symm

theorem subset_of_atPlace (part : ∀ p, (atPlace p vs).Sublist (atPlace p ws)) : vs ⊆ ws :=
  fun a mem => (mem_atPlace_iff.mp ((part a.place).subset (mem_atPlace_iff.mpr ⟨mem, rfl⟩))).1

/-- A list in order is part of another one when it is at every place. -/
theorem sublist_of_atPlace (first : InOrder vs) (second : InOrder ws)
    (part : ∀ p, (atPlace p vs).Sublist (atPlace p ws)) : vs.Sublist ws := by
  induction ws generalizing vs with
  | nil => rw [List.subset_nil.mp (subset_of_atPlace part)]
  | cons b ws ih =>
    have among := subset_of_atPlace part
    have elsewhere {p : Place} (other : b.place ≠ p) : (atPlace p vs).Sublist (atPlace p ws) := by
      have here := part p
      rwa [atPlace_cons_of_ne other] at here
    have here := part b.place
    rw [atPlace_cons_self, List.sublist_cons_iff] at here
    rcases here with later | ⟨rest, begins, later⟩
    · refine (ih first second.of_cons fun p => ?_).cons b
      by_cases same : b.place = p
      · exact same ▸ later
      · exact elsewhere same
    · -- Nothing stands before the first violation at the first place of all.
      have mem : b ∈ vs := (mem_atPlace_iff.mp (begins ▸ List.mem_cons_self)).1
      obtain ⟨a, vs, rfl⟩ := List.exists_cons_of_ne_nil (List.ne_nil_of_mem mem)
      have level : a.place = b.place := by
        apply le_antisymm
        · rcases List.mem_cons.mp mem with rfl | after
          · exact le_rfl
          · exact (List.pairwise_cons.mp first).1 b after
        · rcases List.mem_cons.mp (among List.mem_cons_self) with rfl | after
          · exact le_rfl
          · exact (List.pairwise_cons.mp second).1 a after
      rw [← level, atPlace_cons_self] at begins
      obtain ⟨rfl, rfl⟩ := List.cons.inj begins
      refine (ih first.of_cons second.of_cons fun p => ?_).cons_cons a
      by_cases same : a.place = p
      · exact same ▸ later
      · have there := elsewhere same
        rwa [atPlace_cons_of_ne same] at there

/-- Only one list in order has these violations at every place. -/
theorem eq_of_atPlace_eq (first : InOrder vs) (second : InOrder ws)
    (same : ∀ p, atPlace p vs = atPlace p ws) : vs = ws :=
  (sublist_of_atPlace first second fun p => same p ▸ List.Sublist.refl _).antisymm
    (sublist_of_atPlace second first fun p => same p ▸ List.Sublist.refl _)

/-! ### Reports -/

/-- Violations may be left out before or after sorting. -/
theorem filter_sort (keep : Violation → Bool) (vs : List Violation) :
    (sort vs).filter keep = sort (vs.filter keep) := by
  refine eq_of_atPlace_eq ((inOrder_sort vs).filter keep) (inOrder_sort _) fun p => ?_
  rw [atPlace_sort, atPlace, List.filter_comm, ← atPlace, atPlace_sort, atPlace, List.filter_comm]
  rfl

/-- The report of some of the violations is part of the report of all. -/
theorem sort_sublist (part : vs.Sublist ws) : (sort vs).Sublist (sort ws) :=
  sublist_of_atPlace (inOrder_sort vs) (inOrder_sort ws) fun p => by
    rw [atPlace_sort, atPlace_sort]
    exact part.filter _

end QualityGate.Violation
