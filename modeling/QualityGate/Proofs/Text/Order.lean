import QualityGate.Text.Order

/-!
# Sets of strings as lists

A set of strings is written down as a list without repetitions.  `eraseDups` keeps one occurrence of
every item (`nodup_eraseDups`), so a list that has no repetitions is only rearranged.

Checks that walk through a list and remember what they have seen ask of every item that it is new;
`forall_notMem_cons_iff` turns one step of such a walk into a property of the whole list.
-/

namespace QualityGate.Text

variable {α : Type} [BEq α] [LawfulBEq α]

theorem nodup_eraseDups (items : List α) : items.eraseDups.Nodup := by
  match items with
  | [] => simp
  | item :: rest =>
    rw [List.eraseDups_cons, List.nodup_cons]
    refine ⟨?_, nodup_eraseDups _⟩
    simp
termination_by items.length
decreasing_by
  have shorter := List.length_filter_le (fun other => ! other == item) rest
  simp only [List.length_cons]
  omega

/-- Without repetitions nothing is erased. -/
theorem eraseDups_perm {items : List α} (distinct : items.Nodup) : items.eraseDups.Perm items :=
  (List.perm_ext_iff_of_nodup (nodup_eraseDups items) distinct).mpr fun _ => List.mem_eraseDups

/-- An item that is new to a list is new to one with another item in front, which then is not among
the items. -/
theorem forall_notMem_cons_iff {β γ : Type} {key : β → γ} {first : γ} {seen : List γ}
    {items : List β} :
    (∀ item ∈ items, key item ∉ first :: seen) ↔
      (∀ item ∈ items, key item ∉ seen) ∧ first ∉ items.map key := by
  simp only [List.mem_cons, List.mem_map, not_or, not_exists, not_and]
  exact ⟨fun h => ⟨fun item mem => (h item mem).2, fun item mem => (h item mem).1⟩,
    fun h item mem => ⟨h.2 item mem, h.1 item mem⟩⟩

theorem nodup_sortedSet (texts : List String) : (sortedSet texts).Nodup :=
  (List.mergeSort_perm _ _).symm.nodup (nodup_eraseDups texts)

/-- A set is written down in strictly increasing order. -/
theorem pairwise_lt_sortedSet (texts : List String) : (sortedSet texts).Pairwise (· < ·) := by
  have ordered : (sortedSet texts).Pairwise (· ≤ ·) := by
    refine (List.pairwise_mergeSort ?_ ?_ texts.eraseDups).imp of_decide_eq_true
    · intro a b c first second
      rw [decide_eq_true_eq] at first second ⊢
      exact String.le_trans first second
    · intro a b
      rw [Bool.or_eq_true, decide_eq_true_eq, decide_eq_true_eq]
      exact String.le_total a b
  refine (ordered.and (nodup_sortedSet texts)).imp fun {a b} both => ?_
  exact String.not_le.mp fun back => both.2 (String.le_antisymm both.1 back)

/-- A set is written down as the only list in strictly increasing order that has its members. -/
theorem sortedSet_eq {texts items : List String} (ordered : items.Pairwise (· < ·))
    (same : ∀ text, text ∈ items ↔ text ∈ texts) : sortedSet texts = items := by
  have distinct : items.Nodup := ordered.imp String.ne_of_lt
  have perm : (sortedSet texts).Perm items := by
    refine (List.perm_ext_iff_of_nodup (nodup_sortedSet texts) distinct).mpr fun text => ?_
    rw [mem_sortedSet, same]
  refine perm.eq_of_pairwise (fun x y _ _ first second => ?_) (pairwise_lt_sortedSet texts) ordered
  exact absurd first (String.lt_asymm second)

/-- Equal sets are written down alike. -/
theorem sortedSet_congr {a b : List String} (same : ∀ text, text ∈ a ↔ text ∈ b) :
    sortedSet a = sortedSet b :=
  sortedSet_eq (pairwise_lt_sortedSet b) fun text => by rw [mem_sortedSet, same]

/-- The set of some members is written down like the set, without the others. -/
theorem sortedSet_filter (keep : String → Bool) (texts : List String) :
    sortedSet (texts.filter keep) = (sortedSet texts).filter keep :=
  sortedSet_eq ((pairwise_lt_sortedSet texts).filter keep) fun text => by
    rw [List.mem_filter, List.mem_filter, mem_sortedSet]

end QualityGate.Text
