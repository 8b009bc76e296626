import QualityGate.Path
import QualityGate.Proofs.Text.Pieces

/-!
# Normal forms of paths

The normal form of a path keeps its *significant* pieces, those that are neither empty nor a single
dot, and joins them with slashes (`normalizeChars_eq`).  A significant piece holds no slash, so the
pieces are read back from the normal form and the normal form of a normal form is itself
(`normalize_normalize`).
-/

namespace QualityGate.Path

open QualityGate.Text

/-- Whether a piece of a path leads anywhere. -/
def isSignificant (piece : List Char) : Bool := piece ≠ [] ∧ piece ≠ ['.']

/-- The pieces of a path that lead anywhere. -/
def significant (path : List Char) : List (List Char) := (splitOn '/' path).filter isSignificant

/-- A piece is kept in the normal form exactly when it is significant. -/
theorem text?_component? (piece : List Char) :
    (component? piece).bind Component.text? = Option.guard isSignificant piece := by
  unfold component?
  split <;> simp_all [isSignificant, Component.text?, Option.guard]

/-- The start of a path leaves no trace in the normal form. -/
theorem filterMap_text?_components (path : List Char) :
    (components path).filterMap Component.text?
      = ((splitOn '/' path).filterMap component?).filterMap Component.text? := by
  simp only [components]
  split
  · exact List.filterMap_cons_none rfl
  · exact List.filterMap_cons_none rfl
  · rfl

/-- The normal form consists of the significant pieces. -/
theorem normalizeChars_eq (path : List Char) :
    normalizeChars path = joinWith ['/'] (significant path) := by
  rw [normalizeChars, filterMap_text?_components, List.filterMap_filterMap, significant,
    ← List.filterMap_eq_filter]
  exact congrArg (fun keep => joinWith ['/'] (List.filterMap keep _)) (funext text?_component?)

theorem slash_notMem_of_mem_significant {path piece : List Char} (mem : piece ∈ significant path) :
    '/' ∉ piece :=
  notMem_of_mem_splitOn (List.mem_filter.mp mem).1

/-- The significant pieces are read back from the normal form. -/
theorem significant_normalizeChars (path : List Char) :
    significant (normalizeChars path) = significant path := by
  rw [normalizeChars_eq]
  cases kept : significant path with
  | nil => rfl
  | cons piece pieces =>
    have free : ∀ other ∈ piece :: pieces, '/' ∉ other := fun other mem =>
      slash_notMem_of_mem_significant (kept ▸ mem)
    have whole : ∀ other ∈ piece :: pieces, isSignificant other = true := fun other mem =>
      (List.mem_filter.mp (show other ∈ significant path from kept ▸ mem)).2
    rw [significant, splitOn_joinWith (List.cons_ne_nil _ _) free, List.filter_eq_self.mpr whole]

/-- A path in normal form is its own normal form. -/
theorem normalize_normalize (path : String) : normalize (normalize path) = normalize path := by
  rw [normalize, normalize, String.toList_ofList, normalizeChars_eq (normalizeChars _),
    significant_normalizeChars, ← normalizeChars_eq]

end QualityGate.Path
