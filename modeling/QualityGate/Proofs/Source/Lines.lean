import QualityGate.Proofs.Source.Hidden

/-!
# Runs line by line

The runs of a region can be had line by line.  They are the runs between the ends of the lines
(`lineRuns_eq`), and a line has the runs of the text that begin on it, in their order
(`lineRuns_eq_filter`).
-/

namespace QualityGate.Source

open QualityGate.Text

/-- Lines that are cut out of cells are those between the ends of the lines of the bytes.  The cells
before the first line are counted as well. -/
theorem linesFrom_splitLines (done cells : List Cell) :
    Scanned.linesFrom done.length (Scanned.splitLines cells) =
      (Fix.lineSpans done.length (splitOn newline (cells.map (·.1)))).map fun span =>
        (span.1, ((done ++ cells).take span.2).drop span.1) := by
  by_cases breaks : newline ∈ cells.map (·.1)
  · obtain ⟨_, _, found, free⟩ := List.eq_append_cons_of_mem breaks
    obtain ⟨front, _, rfl, rfl, later⟩ := List.map_eq_append_iff.mp found
    obtain ⟨cell, back, rfl, breaks, rfl⟩ := List.map_eq_cons_iff.mp later
    have pieces : splitOn newline ((front ++ cell :: back).map (·.1)) =
        front.map (·.1) :: splitOn newline (back.map (·.1)) := by
      rw [List.map_append, List.map_cons, breaks, splitOn_append_cons free]
    have behind :
        done.length + (front.map (·.1)).length + 1 = (done ++ front ++ [cell]).length := by
      rw [List.length_append, List.length_append, List.length_map, List.length_singleton]
    have whole : done ++ (front ++ cell :: back) = done ++ front ++ [cell] ++ back := by
      rw [List.append_assoc, List.append_assoc, List.singleton_append]
    rw [Scanned.splitLines_append_newline free breaks, Scanned.linesFrom, pieces, Fix.lineSpans,
      List.map_cons, drop_take_line, behind, whole, ← linesFrom_splitLines _ back, ← behind,
      List.length_map]
  · have here := drop_take_line done cells []
    rw [List.append_nil] at here
    rw [Scanned.splitLines_of_free breaks, splitOn_of_notMem breaks, Fix.lineSpans, Fix.lineSpans,
      List.map_singleton, here]
    rfl
termination_by cells.length

/-- **Scanning and fixing look at the same runs**: the runs line by line are the runs between the
ends of the lines of the text. -/
theorem lineRuns_eq (region : Region) (text : List Char) :
    (scan text).lineRuns region =
      (Fix.lineSpans 0 (splitOn newline (Utf8.encode text))).map fun span =>
        (scan text).runs region span.1 span.2 := by
  have lines : Scanned.linesFrom 0 (Scanned.splitLines (scan text).cells) = _ :=
    linesFrom_splitLines [] (cells (Utf8.encode text))
  rw [Scanned.lineRuns, lines, map_fst_cells, List.map_map]
  rfl

/-- There is one line more than there are line breaks. -/
theorem length_splitLines (cells : List Cell) :
    (Scanned.splitLines cells).length = (cells.map (·.1)).count newline + 1 := by
  induction cells with
  | nil => rfl
  | cons cell cells ih =>
    by_cases breaks : cell.1 = newline
    · rw [Scanned.splitLines_newline breaks, List.length_cons, ih, List.map_cons, breaks,
        List.count_cons_self]
    · obtain ⟨line, lines, found, whole⟩ := Scanned.exists_splitLines_cons breaks cells
      rw [whole, List.map_cons, List.count_cons_of_ne breaks, ← ih, found, List.length_cons,
        List.length_cons]

theorem length_linesFrom (offset : Nat) (lines : List (List Cell)) :
    (Scanned.linesFrom offset lines).length = lines.length := by
  induction lines generalizing offset with
  | nil => rfl
  | cons line lines ih => rw [Scanned.linesFrom, List.length_cons, ih, List.length_cons]

theorem length_lineRuns (region : Region) (text : List Char) :
    ((scan text).lineRuns region).length = text.count '\n' + 1 := by
  have breaks := Utf8.count_encode (d := '\n') (by decide) text
  rw [Scanned.lineRuns, List.length_map, length_linesFrom, length_splitLines, ← breaks]
  exact congrArg (List.count newline · + 1) (map_fst_cells _)

/-- Where every item has the number of its row, the items with a number are those of the row. -/
theorem filter_flatten_eq {α : Type} (number : α → Nat) {rows : List (List α)} {first index : Nat}
    (numbered : ∀ place row, rows[place]? = some row → ∀ item ∈ row, number item = first + place)
    {row : List α} (found : rows[index]? = some row) :
    rows.flatten.filter (fun item => number item = first + index) = row := by
  induction rows generalizing first index with
  | nil => cases found
  | cons head tail ih =>
    have here := numbered 0 head rfl
    have later (place : Nat) (row : List α) (found : tail[place]? = some row) :
        ∀ item ∈ row, number item = first + 1 + place := by
      intro item mem
      rw [numbered (place + 1) row found item mem]
      omega
    rw [List.flatten_cons, List.filter_append]
    cases index with
    | zero =>
      obtain rfl : head = row := Option.some.inj found
      have none : tail.flatten.filter (fun item => number item = first + 0) = [] := by
        rw [List.filter_eq_nil_iff]
        intro item mem
        obtain ⟨row, listed, inside⟩ := List.mem_flatten.mp mem
        obtain ⟨place, placed⟩ := List.mem_iff_getElem?.mp listed
        have other := later place row placed item inside
        simp only [decide_eq_true_eq]
        omega
      rw [none, List.append_nil, List.filter_eq_self]
      exact fun item mem => decide_eq_true (here item mem)
    | succ index =>
      have none : head.filter (fun item => number item = first + (index + 1)) = [] := by
        rw [List.filter_eq_nil_iff]
        intro item mem
        have other := here item mem
        simp only [decide_eq_true_eq]
        omega
      have shift : first + (index + 1) = first + 1 + index := by omega
      rw [none, List.nil_append, shift]
      exact ih later found

/-- **A line has the runs that begin on it**, in their order. -/
theorem lineRuns_eq_filter (region : Region) (text : List Char) :
    (scan text).lineRuns region = (List.range (text.count '\n' + 1)).map fun line =>
      (runsOf region 0 (scan text).cells).filter fun run => lineOf text run.offset = line + 1 := by
  have numbered (line : Nat) (row : List Run)
      (found : ((scan text).lineRuns region)[line]? = some row) :
      ∀ run ∈ row, lineOf text run.offset = 1 + line := by
    intro run mem
    rw [lineRuns_eq, List.getElem?_map, Option.map_eq_some_iff] at found
    obtain ⟨span, listed, rfl⟩ := found
    rw [((mem_runs_lineSpans_iff region text line run).mp ⟨span, listed, mem⟩).2, Nat.add_comm]
  have whole : ((scan text).lineRuns region).flatten = runsOf region 0 (scan text).cells :=
    Scanned.flatten_lineRuns region 0 _
  refine List.ext_getElem (by rw [length_lineRuns, List.length_map, List.length_range]) ?_
  intro line inside _
  have row := filter_flatten_eq (fun run : Run => lineOf text run.offset) numbered
    (List.getElem?_eq_getElem inside)
  rw [List.getElem_map, List.getElem_range, ← whole, Nat.add_comm line 1, row]

end QualityGate.Source
