import QualityGate.Text.Blank

/-!
# Lines

A line ends with a newline, with a carriage return and a newline, or with the text.  The end of a
line is not part of it, and a text that ends with a newline has no empty line after it.
-/

namespace QualityGate.Text

/-- The pieces of `text` between the occurrences of `sep`, one more than there are occurrences. -/
def splitOn [DecidableEq α] (sep : α) : List α → List (List α)
  | [] => [[]]
  | c :: text =>
    if c = sep then [] :: splitOn sep text
    else match splitOn sep text with
      | [] => [[c]]
      | piece :: pieces => (c :: piece) :: pieces

@[simp] theorem splitOn_nil [DecidableEq α] (sep : α) : splitOn sep [] = [[]] := rfl

theorem splitOn_ne_nil [DecidableEq α] (sep : α) (text : List α) : splitOn sep text ≠ [] := by
  cases text with
  | nil => simp
  | cons c text =>
    by_cases h : c = sep
    · simp [splitOn, h]
    · rw [splitOn, if_neg h]
      split <;> simp

/-- The pieces with `sep` between them. -/
def joinWith (sep : List α) : List (List α) → List α
  | [] => []
  | [piece] => piece
  | piece :: pieces => piece ++ sep ++ joinWith sep pieces

@[simp] theorem joinWith_nil (sep : List α) : joinWith sep [] = [] := rfl

@[simp] theorem joinWith_singleton (sep piece : List α) : joinWith sep [piece] = piece := rfl

@[simp] theorem joinWith_cons_cons (sep p q : List α) (rest : List (List α)) :
    joinWith sep (p :: q :: rest) = p ++ sep ++ joinWith sep (q :: rest) := rfl

theorem joinWith_splitOn [DecidableEq α] (sep : α) (text : List α) :
    joinWith [sep] (splitOn sep text) = text := by
  induction text with
  | nil => rfl
  | cons c text ih =>
    by_cases h : c = sep
    · cases hs : splitOn sep text with
      | nil => exact absurd hs (splitOn_ne_nil sep text)
      | cons piece pieces => simp [splitOn, h, hs] at ih ⊢; simp [ih]
    · cases hs : splitOn sep text with
      | nil => exact absurd hs (splitOn_ne_nil sep text)
      | cons piece pieces =>
        cases pieces with
        | nil => simp [splitOn, h, hs] at ih ⊢; exact ih
        | cons q rest => simp [splitOn, h, hs] at ih ⊢; exact ih

/-- A line without one carriage return at its end. -/
def dropReturn (line : List Char) : List Char :=
  match line.getLast? with
  | some '\r' => line.dropLast
  | _ => line

/-- The lines of a text.  Only a line that is ended by a newline loses a carriage return. -/
def lines (text : List Char) : List (List Char) :=
  let pieces := splitOn '\n' text
  let ended := pieces.dropLast.map dropReturn
  match pieces.getLast? with
  | some [] | none => ended
  | some last => ended ++ [last]

/-- Strings with `sep` between them. -/
def join (sep : String) (pieces : List String) : String := sep.intercalate pieces

end QualityGate.Text
