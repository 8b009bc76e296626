import QualityGate.Proofs.Source.Characters
import QualityGate.Source.Masked

/-!
# Stretches are maximal

The stretches of cells that satisfy a test are apart from each other (`pairwise_stretches`), and
together they cover what satisfies the test (`exists_mem_stretches_iff`).  The pass that opens and
closes spans finds their ends (`spansFrom_eq`).  If no character is divided by the test, every
stretch is a text (`exists_encode_of_mem_stretches`).

### What is load-bearing

Items are looked at up to the first one that fails the test (`cut_induction`): those before it are
one stretch, or none, and those behind it are on their own.
-/

namespace QualityGate.Source

open QualityGate.Text

/-! ### Up to the first item that fails a test -/

/-- Either all items satisfy a test, or there is a first one that fails it. -/
theorem forall_or_exists_cut {α : Type} (keep : α → Bool) (items : List α) :
    (∀ item ∈ items, keep item = true) ∨ ∃ front item back, items = front ++ item :: back ∧
      (∀ kept ∈ front, keep kept = true) ∧ keep item = false := by
  induction items with
  | nil => exact Or.inl (List.forall_mem_nil _)
  | cons first items ih =>
    cases here : keep first with
    | false => exact Or.inr ⟨[], first, items, rfl, List.forall_mem_nil _, here⟩
    | true =>
      rcases ih with all | ⟨front, item, back, rfl, kept, cut⟩
      · exact Or.inl (List.forall_mem_cons.mpr ⟨here, all⟩)
      · exact Or.inr ⟨first :: front, item, back, rfl, List.forall_mem_cons.mpr ⟨here, kept⟩, cut⟩

/-- Induction on the number of items that fail a test. -/
@[elab_as_elim]
theorem cut_induction {α : Type} (keep : α → Bool) {motive : List α → Prop}
    (kept : ∀ items, (∀ item ∈ items, keep item = true) → motive items)
    (cut : ∀ front item back, (∀ kept ∈ front, keep kept = true) → keep item = false →
      motive back → motive (front ++ item :: back)) (items : List α) : motive items := by
  rcases forall_or_exists_cut keep items with all | ⟨front, item, back, whole, before, fails⟩
  · exact kept items all
  · have shorter : back.length < items.length := by
      rw [whole, List.length_append, List.length_cons]
      omega
    exact whole ▸ cut front item back before fails (cut_induction keep kept cut back)
termination_by items.length

section Stretches

variable {keep : Cell → Bool} {offset place : Nat}

/-- Cells that all satisfy the test are one stretch. -/
theorem stretches_of_forall {cells : List Cell} (kept : ∀ cell ∈ cells, keep cell = true)
    (some : cells ≠ []) (offset : Nat) :
    stretches keep offset cells = [(offset, cells.map (·.1))] := by
  induction cells generalizing offset with
  | nil => exact absurd rfl some
  | cons cell cells ih =>
    obtain ⟨first, others⟩ := List.forall_mem_cons.mp kept
    cases cells with
    | nil => rw [stretches, if_pos first, stretches]; rfl
    | cons next cells =>
      rw [stretches, if_pos first, ih others (List.cons_ne_nil _ _)]
      exact if_pos rfl

/-- Cells that all fail the test can be left out. -/
theorem stretches_hidden_append {front : List Cell} (hidden : ∀ cell ∈ front, keep cell = false)
    (offset : Nat) (back : List Cell) :
    stretches keep offset (front ++ back) = stretches keep (offset + front.length) back := by
  induction front generalizing offset with
  | nil => rfl
  | cons cell front ih =>
    obtain ⟨first, others⟩ := List.forall_mem_cons.mp hidden
    have outside : ¬ keep cell = true := by simp [first]
    rw [List.cons_append, stretches, if_neg outside, ih others, List.length_cons]
    congr 1
    omega

/-! ### Order and coverage -/

/-- **Stretches are apart**: between two of them is a cell. -/
theorem pairwise_stretches (keep : Cell → Bool) (offset : Nat) (cells : List Cell) :
    (stretches keep offset cells).Pairwise fun stretch later =>
      stretch.1 + stretch.2.length < later.1 := by
  induction cells using cut_induction keep generalizing offset with
  | kept cells all =>
    by_cases empty : cells = []
    · rw [empty, stretches]
      exact List.Pairwise.nil
    · rw [stretches_of_forall all empty]
      exact List.pairwise_singleton _ _
  | cut front cell back all outside ih =>
    rw [stretches_append_cons outside]
    by_cases empty : front = []
    · rw [empty, stretches]
      exact ih _
    · rw [stretches_of_forall all empty, List.singleton_append, List.pairwise_cons]
      refine ⟨fun later mem => ?_, ih _⟩
      have behind := le_of_mem_stretches mem
      rw [List.length_map]
      omega

/-- **Stretches cover what satisfies the test**, and nothing else. -/
theorem exists_mem_stretches_iff {cells : List Cell} :
    (∃ stretch ∈ stretches keep offset cells,
        stretch.1 ≤ offset + place ∧ offset + place < stretch.1 + stretch.2.length) ↔
      ∃ cell, cells[place]? = some cell ∧ keep cell = true := by
  constructor
  · rintro ⟨⟨start, bytes⟩, mem, first, last⟩
    obtain ⟨front, piece, back, rfl, rfl, rfl, -, kept⟩ := exists_append_of_mem_stretches mem
    rw [List.length_map] at last
    have inside : place - front.length < piece.length := by omega
    refine ⟨piece[place - front.length], ?_, kept _ (List.getElem_mem inside)⟩
    rw [List.getElem?_append_right (by omega), List.getElem?_append_left inside,
      List.getElem?_eq_getElem inside]
  · rintro ⟨cell, found, inside⟩
    induction cells using cut_induction keep generalizing offset place with
    | kept cells all =>
      obtain ⟨bound, -⟩ := List.getElem?_eq_some_iff.mp found
      have some : cells ≠ [] := List.ne_nil_of_length_pos (by omega)
      rw [stretches_of_forall all some]
      exact ⟨_, List.mem_singleton_self _, Nat.le_add_right _ _, by rw [List.length_map]; omega⟩
    | cut front other back all outside ih =>
      rw [stretches_append_cons outside]
      rcases Nat.lt_trichotomy place front.length with before | here | behind
      · have some : front ≠ [] := List.ne_nil_of_length_pos (by omega)
        rw [stretches_of_forall all some]
        exact ⟨_, List.mem_append_left _ (List.mem_singleton_self _), Nat.le_add_right _ _,
          by rw [List.length_map]; omega⟩
      · rw [here, List.getElem?_append_right (Nat.le_refl _), Nat.sub_self] at found
        cases found
        rw [outside] at inside
        cases inside
      · obtain ⟨later, rfl⟩ := Nat.exists_eq_add_of_lt behind
        rw [List.getElem?_append_right (by omega), Nat.add_assoc, Nat.add_sub_cancel_left,
          List.getElem?_cons_succ] at found
        obtain ⟨stretch, mem, first, last⟩ : ∃ stretch ∈
            stretches keep (offset + front.length + 1) back,
            stretch.1 ≤ offset + front.length + 1 + later ∧
              offset + front.length + 1 + later < stretch.1 + stretch.2.length := ih found
        exact ⟨stretch, List.mem_append_right _ mem, by omega, by omega⟩

/-! ### The pass that opens and closes spans -/

/-- An open span stays open as long as the test is satisfied. -/
theorem spansFrom_kept_append (start place count : Nat) (rest : List Bool) :
    Masked.spansFrom (some start) place (List.replicate count true ++ rest) =
      Masked.spansFrom (some start) (place + count) rest := by
  induction count generalizing place with
  | zero => rfl
  | succ count ih =>
    have later := ih (place + 1)
    rw [Nat.add_right_comm] at later
    exact later

/-- Behind cells that all satisfy the test the span that the first of them opens is still open. -/
theorem spansFrom_map_append {cell : Cell} {cells : List Cell}
    (all : ∀ kept ∈ cell :: cells, keep kept = true) (offset : Nat) (rest : List Bool) :
    Masked.spansFrom none offset ((cell :: cells).map keep ++ rest) =
      Masked.spansFrom (some offset) (offset + (cell :: cells).length) rest := by
  have tests : (cell :: cells).map keep = true :: List.replicate cells.length true := by
    rw [List.map_congr_left all, List.map_const', List.length_cons, List.replicate_succ]
  rw [tests, List.cons_append, Masked.spansFrom, spansFrom_kept_append, List.length_cons]
  congr 1
  omega

/-- **The pass finds the ends of the stretches.** -/
theorem spansFrom_eq (keep : Cell → Bool) (offset : Nat) (cells : List Cell) :
    Masked.spansFrom none offset (cells.map keep) =
      (stretches keep offset cells).map fun stretch =>
        (stretch.1, stretch.1 + stretch.2.length) := by
  induction cells using cut_induction keep generalizing offset with
  | kept cells all =>
    cases cells with
    | nil => rfl
    | cons cell cells =>
      have spans := spansFrom_map_append all offset []
      rw [List.append_nil] at spans
      rw [spans, stretches_of_forall all (List.cons_ne_nil _ _), List.map_singleton,
        List.length_map]
      rfl
  | cut front cell back all outside ih =>
    rw [stretches_append_cons outside, List.map_append, List.map_append, List.map_cons, outside,
      ← ih]
    cases front with
    | nil => rfl
    | cons first front =>
      rw [spansFrom_map_append all, stretches_of_forall all (List.cons_ne_nil _ _), List.map_singleton,
        List.length_map]
      rfl

/-! ### Whole characters -/

/-- A character that a run of the region may hold. -/
def holds (region : Region) (marked : Char × Kind) : Bool :=
  marked.2 = region.kind ∧ marked.1 ≠ '\n'

/-- A run holds all bytes of a character or none. -/
theorem inRun_of_mem {region : Region} {c : Char} {kind : Kind} {cell : Cell}
    (mem : cell ∈ (String.utf8EncodeChar c).map (·, kind)) :
    inRun region cell = holds region (c, kind) := by
  obtain ⟨b, byte, rfl⟩ := List.mem_map.mp mem
  simp only [inRun, holds, ne_eq, eq_newline_iff byte]

theorem inRun_of_mem_spread {region : Region} {marked : List (Char × Kind)}
    (kept : ∀ item ∈ marked, holds region item = true) {cell : Cell}
    (mem : cell ∈ spread marked) : inRun region cell = true := by
  obtain ⟨item, listed, inside⟩ := List.mem_flatMap.mp mem
  rw [inRun_of_mem inside, kept item listed]

section Characters

variable {marked : List (Char × Kind)} {region : Region} {stretch : Stretch}

theorem exists_encode_of_forall (kept : ∀ item ∈ marked, holds region item = true)
    (mem : stretch ∈ stretches (inRun region) offset (spread marked)) :
    ∃ text, Utf8.encode text = stretch.2 := by
  have some : spread marked ≠ [] := by
    intro nothing
    rw [nothing] at mem
    cases mem
  rw [stretches_of_forall (fun _ inside => inRun_of_mem_spread kept inside) some,
    List.mem_singleton] at mem
  exact ⟨marked.map (·.1), by rw [mem, map_fst_spread]⟩

/-- Where characters are kept or dropped as a whole, every stretch is a text. -/
theorem exists_encode_of_mem_stretches
    (mem : stretch ∈ stretches (inRun region) offset (spread marked)) :
    ∃ text, Utf8.encode text = stretch.2 := by
  induction marked using cut_induction (holds region) generalizing offset with
  | kept marked kept => exact exists_encode_of_forall kept mem
  | cut front item back kept outside ih =>
    have hidden : ∀ cell ∈ (String.utf8EncodeChar item.1).map (·, item.2),
        inRun region cell = false := fun cell inside => (inRun_of_mem inside).trans outside
    obtain ⟨first, more, cells⟩ := List.exists_cons_of_ne_nil
      (mt List.map_eq_nil_iff.mp (Utf8.utf8EncodeChar_ne_nil item.1) :
        (String.utf8EncodeChar item.1).map (·, item.2) ≠ [])
    rw [cells] at hidden
    obtain ⟨outside, others⟩ := List.forall_mem_cons.mp hidden
    rw [spread_append, spread_cons, cells, List.cons_append, stretches_append_cons outside,
      stretches_hidden_append others, List.mem_append] at mem
    exact mem.elim (exists_encode_of_forall kept) ih

end Characters

end Stretches

end QualityGate.Source
