import QualityGate.Text.Lines

/-!
# Pieces between separators

A text is cut at every occurrence of a separator.  Joining the pieces gives the text back
(`joinWith_splitOn`), and pieces in which the separator does not occur are what their join is cut
into (`splitOn_joinWith`).  So the pieces of a text are the first ones of another text exactly when
the other one is the same or goes on behind it with a separator (`splitOn_prefix_iff`).
-/

namespace QualityGate.Text

variable {α : Type} [DecidableEq α] {sep : α}

@[simp] theorem splitOn_cons_self (sep : α) (text : List α) :
    splitOn sep (sep :: text) = [] :: splitOn sep text := by
  rw [splitOn, if_pos rfl]

/-- A character that is not the separator goes to the front of the first piece. -/
theorem exists_splitOn_cons {c : α} (other : c ≠ sep) (text : List α) :
    ∃ piece pieces, splitOn sep text = piece :: pieces ∧
      splitOn sep (c :: text) = (c :: piece) :: pieces := by
  obtain ⟨piece, pieces, found⟩ := List.exists_cons_of_ne_nil (splitOn_ne_nil sep text)
  exact ⟨piece, pieces, found, by rw [splitOn, if_neg other, found]⟩

theorem notMem_of_mem_splitOn {text piece : List α} (mem : piece ∈ splitOn sep text) :
    sep ∉ piece := by
  induction text generalizing piece with
  | nil =>
    rw [splitOn_nil, List.mem_singleton] at mem
    rw [mem]
    exact List.not_mem_nil
  | cons c text ih =>
    by_cases cut : c = sep
    · rw [cut, splitOn_cons_self, List.mem_cons] at mem
      rcases mem with rfl | later
      · exact List.not_mem_nil
      · exact ih later
    · obtain ⟨first, pieces, found, whole⟩ := exists_splitOn_cons cut text
      rw [whole, List.mem_cons] at mem
      rcases mem with rfl | later
      · rw [List.mem_cons, not_or]
        exact ⟨Ne.symm cut, ih (by rw [found]; exact List.mem_cons_self)⟩
      · exact ih (by rw [found]; exact List.mem_cons_of_mem _ later)

/-- A piece in front of the separator is cut off. -/
theorem splitOn_append_cons {piece : List α} (free : sep ∉ piece) (text : List α) :
    splitOn sep (piece ++ sep :: text) = piece :: splitOn sep text := by
  induction piece with
  | nil => rw [List.nil_append, splitOn_cons_self]
  | cons c piece ih =>
    rw [List.mem_cons, not_or] at free
    rw [List.cons_append, splitOn, if_neg (Ne.symm free.1), ih free.2]

/-- The pieces on either side of a separator. -/
theorem splitOn_append_sep (front back : List α) :
    splitOn sep (front ++ sep :: back) = splitOn sep front ++ splitOn sep back := by
  induction front with
  | nil => rw [List.nil_append, splitOn_cons_self, splitOn_nil, List.singleton_append]
  | cons c front ih =>
    by_cases cut : c = sep
    · rw [cut, List.cons_append, splitOn_cons_self, ih, splitOn_cons_self, List.cons_append]
    · obtain ⟨piece, pieces, found, whole⟩ := exists_splitOn_cons cut front
      rw [found] at ih
      rw [List.cons_append, splitOn, if_neg cut, ih, whole]
      rfl

theorem splitOn_of_notMem {piece : List α} (free : sep ∉ piece) : splitOn sep piece = [piece] := by
  induction piece with
  | nil => rfl
  | cons c piece ih =>
    rw [List.mem_cons, not_or] at free
    rw [splitOn, if_neg (Ne.symm free.1), ih free.2]

/-- How long the pieces are depends on where the separators are. -/
theorem map_length_splitOn_map {β : Type} {f g : β → α} {items : List β}
    (same : ∀ item ∈ items, f item = sep ↔ g item = sep) :
    (splitOn sep (items.map f)).map List.length = (splitOn sep (items.map g)).map List.length := by
  induction items with
  | nil => rfl
  | cons item items ih =>
    obtain ⟨here, others⟩ := List.forall_mem_cons.mp same
    rw [List.map_cons, List.map_cons]
    by_cases cut : f item = sep
    · rw [cut, here.mp cut, splitOn_cons_self, splitOn_cons_self, List.map_cons, ih others,
        List.map_cons]
    · obtain ⟨piece, pieces, found, whole⟩ := exists_splitOn_cons cut (items.map f)
      have other := mt here.mpr cut
      obtain ⟨piece', pieces', found', whole'⟩ := exists_splitOn_cons other (items.map g)
      have lengths := ih others
      rw [found, found', List.map_cons, List.map_cons, List.cons.injEq] at lengths
      rw [whole, whole', List.map_cons, List.map_cons, List.length_cons, List.length_cons,
        lengths.1, lengths.2]

/-- Pieces without the separator are read back from their join. -/
theorem splitOn_joinWith {pieces : List (List α)} (nonempty : pieces ≠ [])
    (free : ∀ piece ∈ pieces, sep ∉ piece) : splitOn sep (joinWith [sep] pieces) = pieces := by
  induction pieces with
  | nil => exact absurd rfl nonempty
  | cons piece pieces ih =>
    have first := free piece List.mem_cons_self
    cases pieces with
    | nil => rw [joinWith_singleton, splitOn_of_notMem first]
    | cons next rest =>
      rw [joinWith_cons_cons, List.append_assoc, List.singleton_append, splitOn_append_cons first,
        ih (List.cons_ne_nil _ _) fun other mem => free other (List.mem_cons_of_mem _ mem)]

omit [DecidableEq α] in
theorem joinWith_append {front back : List (List α)} (some : front ≠ []) (more : back ≠ [])
    (between : List α) :
    joinWith between (front ++ back) =
      joinWith between front ++ between ++ joinWith between back := by
  induction front with
  | nil => exact absurd rfl some
  | cons piece pieces ih =>
    cases pieces with
    | nil =>
      obtain ⟨next, rest, rfl⟩ := List.exists_cons_of_ne_nil more
      rfl
    | cons next rest =>
      rw [List.cons_append] at ih ⊢
      rw [List.cons_append, joinWith_cons_cons, ih (List.cons_ne_nil _ _), joinWith_cons_cons]
      simp only [List.append_assoc]

/-- Texts with the same pieces are the same. -/
theorem splitOn_injective (sep : α) : Function.Injective (splitOn sep) := by
  intro text other same
  rw [← joinWith_splitOn sep text, same, joinWith_splitOn]

/-- A text begins with the pieces of another one when it is that one, or when it goes on behind it
with a separator. -/
theorem splitOn_prefix_iff {front text : List α} :
    splitOn sep front <+: splitOn sep text ↔ text = front ∨ ∃ rest, text = front ++ sep :: rest := by
  constructor
  · rintro ⟨more, whole⟩
    cases more with
    | nil =>
      rw [List.append_nil] at whole
      exact Or.inl (splitOn_injective sep whole.symm)
    | cons piece pieces =>
      refine Or.inr ⟨joinWith [sep] (piece :: pieces), ?_⟩
      have joined := joinWith_append (splitOn_ne_nil sep front) (List.cons_ne_nil piece pieces) [sep]
      rw [whole, joinWith_splitOn, joinWith_splitOn] at joined
      rw [joined, List.append_assoc, List.singleton_append]
  · rintro (rfl | ⟨rest, rfl⟩)
    · exact List.prefix_rfl
    · rw [splitOn_append_sep]
      exact List.prefix_append _ _

omit [DecidableEq α] in
/-- Only one empty piece joins to nothing. -/
theorem joinWith_singleton_eq_nil {pieces : List (List α)} (nothing : joinWith [sep] pieces = []) :
    pieces = [] ∨ pieces = [[]] := by
  match pieces with
  | [] => exact Or.inl rfl
  | [piece] => exact Or.inr (by rw [joinWith_singleton] at nothing; rw [nothing])
  | piece :: next :: rest => simp at nothing

end QualityGate.Text
