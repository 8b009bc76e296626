import QualityGate.Proofs.Source.Sweep
import QualityGate.Proofs.Text.Boundary
import QualityGate.Proofs.Text.Pieces
import QualityGate.Rule.Fix

/-!
# Runs of a region

A run is a piece of the text that it is taken from, it begins and ends between characters, and all
of it lies in the region (`exists_append_of_mem_range`).  Runs do not reach across lines, so the
runs on a line are those of the text that begin on it (`mem_runs_lineSpans_iff`).

### What is load-bearing

A cell that does not belong to any stretch can be left out: the stretches of the cells before it and
of those after it are the stretches of the whole (`stretches_append_cons`).  A newline is such a
cell in either region.
-/

namespace QualityGate.Source

open QualityGate.Text

/-! ### Stretches -/

section Stretches

variable {keep : Cell → Bool}

/-- A stretch is cut out of the cells, and all its cells satisfy the test. -/
theorem exists_append_of_mem_stretches {offset start : Nat} {bytes : Bytes} {cells : List Cell}
    (mem : (start, bytes) ∈ stretches keep offset cells) :
    ∃ front piece back, cells = front ++ (piece ++ back) ∧ start = offset + front.length ∧
      bytes = piece.map (·.1) ∧ piece ≠ [] ∧ ∀ cell ∈ piece, keep cell = true := by
  induction cells generalizing offset start bytes with
  | nil => cases mem
  | cons cell rest ih =>
    have later {start : Nat} {bytes : Bytes}
        (mem : (start, bytes) ∈ stretches keep (offset + 1) rest) :
        ∃ front piece back, cell :: rest = front ++ (piece ++ back) ∧
          start = offset + front.length ∧ bytes = piece.map (·.1) ∧ piece ≠ [] ∧
          ∀ cell ∈ piece, keep cell = true := by
      obtain ⟨front, piece, back, rfl, rfl, same, some, kept⟩ := ih mem
      exact ⟨cell :: front, piece, back, rfl, by rw [List.length_cons]; omega, same, some, kept⟩
    rw [stretches] at mem
    by_cases inside : keep cell = true
    · rw [if_pos inside] at mem
      cases found : stretches keep (offset + 1) rest with
      | nil =>
        rw [found] at mem
        obtain ⟨rfl, rfl⟩ := Prod.mk.inj (List.mem_singleton.mp mem)
        exact ⟨[], [cell], rest, rfl, rfl, rfl, List.cons_ne_nil _ _, by simpa using inside⟩
      | cons first more =>
        obtain ⟨next, bytes'⟩ := first
        rw [found] at mem
        dsimp only at mem
        split at mem
        · next adjacent =>
          rcases List.mem_cons.mp mem with same | mem
          · -- The cell goes before the stretch that begins right behind it.
            obtain ⟨rfl, rfl⟩ := Prod.mk.inj same
            obtain ⟨front, piece, back, whole, place, same, some, kept⟩ :=
              ih (found ▸ List.mem_cons_self : (next, bytes') ∈ stretches keep (start + 1) rest)
            have nothing : front = [] := List.length_eq_zero_iff.mp (by omega)
            subst nothing
            refine ⟨[], cell :: piece, back, ?_, rfl, ?_, List.cons_ne_nil _ _, ?_⟩
            · rw [whole]
              rfl
            · rw [same, List.map_cons]
            · exact List.forall_mem_cons.mpr ⟨inside, kept⟩
          · exact later (found ▸ List.mem_cons_of_mem _ mem)
        · rcases List.mem_cons.mp mem with same | mem
          · obtain ⟨rfl, rfl⟩ := Prod.mk.inj same
            exact ⟨[], [cell], rest, rfl, rfl, rfl, List.cons_ne_nil _ _, by simpa using inside⟩
          · exact later (found ▸ mem)
    · rw [if_neg inside] at mem
      exact later mem

theorem le_of_mem_stretches {offset : Nat} {cells : List Cell} {stretch : Stretch}
    (mem : stretch ∈ stretches keep offset cells) : offset ≤ stretch.1 := by
  obtain ⟨front, -, -, -, place, -⟩ :=
    exists_append_of_mem_stretches (mem : (stretch.1, stretch.2) ∈ stretches keep offset cells)
  omega

/-- A cell that fails the test separates the stretches before it from those after it. -/
theorem stretches_append_cons {cell : Cell} (outside : keep cell = false) (offset : Nat)
    (front back : List Cell) :
    stretches keep offset (front ++ cell :: back) =
      stretches keep offset front ++ stretches keep (offset + front.length + 1) back := by
  induction front generalizing offset with
  | nil =>
    simp [stretches, outside]
  | cons first front ih =>
    have length : offset + 1 + front.length + 1 = offset + (first :: front).length + 1 := by
      rw [List.length_cons]
      omega
    rw [List.cons_append, stretches, stretches, ih, length]
    cases keep first with
    | false => rfl
    | true =>
      rw [if_pos rfl, if_pos rfl]
      cases stretches keep (offset + 1) front with
      | cons stretch more =>
        rw [List.cons_append]
        dsimp only
        split <;> rfl
      | nil =>
        rw [List.nil_append]
        cases found : stretches keep (offset + (first :: front).length + 1) back with
        | nil => rfl
        | cons stretch more =>
          -- The next stretch begins behind the cell that fails the test.
          have behind := le_of_mem_stretches (found ▸ List.mem_cons_self :
            stretch ∈ stretches keep (offset + (first :: front).length + 1) back)
          rw [List.length_cons] at behind
          dsimp only
          rw [if_neg (by omega)]
          rfl

end Stretches

/-! ### Runs of a text -/

theorem inRun_newline (region : Region) (kind : Kind) : inRun region (newline, kind) = false := by
  simp [inRun]

theorem runsOf_append_newline {cell : Cell} (breaks : cell.1 = newline) (region : Region)
    (offset : Nat) (front back : List Cell) :
    runsOf region offset (front ++ cell :: back) =
      runsOf region offset front ++ runsOf region (offset + front.length + 1) back := by
  obtain ⟨byte, kind⟩ := cell
  obtain rfl : byte = newline := breaks
  rw [runsOf, stretches_append_cons (inRun_newline region kind), List.filterMap_append]
  rfl

theorem map_fst_cells (bytes : Bytes) : (cells bytes).map (·.1) = bytes := by
  rw [cells, List.map_fst_zip (Nat.le_of_eq (length_kinds bytes).symm)]

/-- A run is cut out of the cells, and its bytes are those of its text. -/
theorem exists_append_of_mem_runsOf {region : Region} {offset : Nat} {cells : List Cell} {run : Run}
    (mem : run ∈ runsOf region offset cells) :
    ∃ front piece back, cells = front ++ (piece ++ back) ∧ run.offset = offset + front.length ∧
      Utf8.encode run.text = piece.map (·.1) ∧ piece ≠ [] ∧
      ∀ cell ∈ piece, inRun region cell = true := by
  obtain ⟨⟨start, bytes⟩, listed, decoded⟩ := List.mem_filterMap.mp mem
  obtain ⟨text, read, rfl⟩ := Option.map_eq_some_iff.mp decoded
  obtain ⟨front, piece, back, whole, place, same, some, kept⟩ :=
    exists_append_of_mem_stretches listed
  exact ⟨front, piece, back, whole, place, (Utf8.decode?_eq_some_iff.mp read).trans same, some, kept⟩

/-- What is among the items between two offsets is among the items. -/
theorem exists_append_of_drop_take {α : Type} {items front piece back : List α} {start stop : Nat}
    (some : piece ≠ []) (range : (items.take stop).drop start = front ++ (piece ++ back)) :
    ∃ done rest, items = done ++ (piece ++ rest) ∧ done.length = start + front.length := by
  have count := congrArg List.length range
  have length := List.length_pos_iff.mpr some
  rw [List.length_drop, List.length_append, List.length_append] at count
  refine ⟨(items.take stop).take start ++ front, back ++ items.drop stop, ?_, ?_⟩
  · calc items = ((items.take stop).take start ++ (items.take stop).drop start) ++
            items.drop stop := by rw [List.take_append_drop, List.take_append_drop]
      _ = _ := by rw [range]; simp only [List.append_assoc]
  · rw [List.length_append, List.length_take]
    omega

/-- **A run is a piece of its text**, between whatever offsets it is looked for.  It begins and ends
between characters, and its bytes lie in the region. -/
theorem exists_append_of_mem_range {region : Region} {text : List Char} {start stop : Nat}
    {run : Run} (mem : run ∈ (scan text).runs region start stop) :
    (∃ before after, text = before ++ (run.text ++ after) ∧
        run.offset = (Utf8.encode before).length) ∧ run.text ≠ [] ∧
      ∀ place < (Utf8.encode run.text).length, ∃ cell,
        (scan text).cells[run.offset + place]? = some cell ∧ inRun region cell = true := by
  obtain ⟨front, piece, back, range, place, bytes, some, kept⟩ := exists_append_of_mem_runsOf mem
  obtain ⟨done, rest, whole, length⟩ := exists_append_of_drop_take some range
  rw [← length] at place
  have occurs : Utf8.encode text =
      done.map (·.1) ++ (Utf8.encode run.text ++ rest.map (·.1)) := by
    rw [bytes, ← List.map_append, ← List.map_append, ← whole]
    exact (map_fst_cells _).symm
  have nonempty : run.text ≠ [] := by
    intro nothing
    rw [nothing, Utf8.encode_nil] at bytes
    exact some (List.map_eq_nil_iff.mp bytes.symm)
  obtain ⟨before, after, split, first, -⟩ := Utf8.exists_append_of_encode_eq nonempty occurs
  refine ⟨⟨before, after, split, ?_⟩, nonempty, ?_⟩
  · rw [place, first, List.length_map]
  · intro offset bound
    rw [bytes, List.length_map] at bound
    refine ⟨piece[offset], ?_, kept _ (List.getElem_mem bound)⟩
    rw [whole, place, List.getElem?_append_right (Nat.le_add_right _ _), Nat.add_sub_cancel_left,
      List.getElem?_append_left bound, List.getElem?_eq_getElem bound]

theorem length_cells (bytes : Bytes) : (cells bytes).length = bytes.length := by
  rw [← List.length_map (·.1), map_fst_cells]

/-- All runs of a text. -/
theorem runs_all (region : Region) (text : List Char) :
    (scan text).runs region 0 (Utf8.encode text).length = runsOf region 0 (scan text).cells := by
  have whole := List.take_of_length_le (Nat.le_of_eq (length_cells (Utf8.encode text)))
  exact congrArg (runsOf region 0) whole

theorem exists_append_of_mem_runs {region : Region} {text : List Char} {run : Run}
    (mem : run ∈ runsOf region 0 (scan text).cells) :
    (∃ before after, text = before ++ (run.text ++ after) ∧
        run.offset = (Utf8.encode before).length) ∧ run.text ≠ [] ∧
      ∀ place < (Utf8.encode run.text).length, ∃ cell,
        (scan text).cells[run.offset + place]? = some cell ∧ inRun region cell = true :=
  exists_append_of_mem_range (runs_all region text ▸ mem)

theorem newline_notMem_of_mem_runsOf {region : Region} {offset : Nat} {cells : List Cell}
    {run : Run} (mem : run ∈ runsOf region offset cells) : newline ∉ Utf8.encode run.text := by
  obtain ⟨front, piece, back, -, -, bytes, -, kept⟩ := exists_append_of_mem_runsOf mem
  rw [bytes]
  intro breaks
  obtain ⟨⟨byte, kind⟩, inPiece, rfl⟩ := List.mem_map.mp breaks
  have inside := kept _ inPiece
  rw [inRun_newline] at inside
  cases inside

/-! ### Lines -/

/-- The line of an offset of a text, counted from one. -/
def lineOf (text : List Char) (offset : Nat) : Nat :=
  ((Utf8.encode text).take offset).count newline + 1

section Lines

variable {region : Region} {run : Run}

/-- The runs of cells without a newline begin before any newline that comes later. -/
theorem count_take_of_mem_runsOf {done front : List Cell} (free : newline ∉ front.map (·.1))
    (mem : run ∈ runsOf region done.length front) (back : List Cell) :
    (((done ++ (front ++ back)).map (·.1)).take run.offset).count newline =
      (done.map (·.1)).count newline := by
  obtain ⟨before, piece, after, rfl, place, -⟩ := exists_append_of_mem_runsOf mem
  rw [List.map_append, List.mem_append, not_or] at free
  have first : (done ++ (before ++ (piece ++ after) ++ back)).map (·.1) =
      (done.map (·.1) ++ before.map (·.1)) ++ ((piece ++ after) ++ back).map (·.1) := by
    simp only [List.map_append, List.append_assoc]
  have length : run.offset = (done.map (·.1) ++ before.map (·.1)).length := by
    rw [place, List.length_append, List.length_map, List.length_map]
  rw [first, length, List.take_left, List.count_append, List.count_eq_zero_of_not_mem free.1,
    Nat.add_zero]

/-- The runs behind a newline begin behind it. -/
theorem count_lt_count_take (done : List Cell) {back : List Cell} {cell : Cell}
    (breaks : cell.1 = newline) (mem : run ∈ runsOf region (done.length + 1) back) :
    (done.map (·.1)).count newline <
      (((done ++ cell :: back).map (·.1)).take run.offset).count newline := by
  obtain ⟨before, piece, after, rfl, place, -⟩ := exists_append_of_mem_runsOf mem
  have first : (done ++ cell :: (before ++ (piece ++ after))).map (·.1) =
      (done.map (·.1) ++ cell.1 :: before.map (·.1)) ++ (piece ++ after).map (·.1) := by
    rw [List.map_append, List.map_cons, List.map_append, List.append_assoc, List.cons_append]
  have length : run.offset = (done.map (·.1) ++ cell.1 :: before.map (·.1)).length := by
    rw [place, List.length_append, List.length_cons, List.length_map, List.length_map]
    omega
  rw [first, length, List.take_left, breaks, List.count_append, List.count_cons_self]
  omega

omit region run in
/-- The cells between the ends of a line. -/
theorem drop_take_line (done front back : List Cell) :
    ((done ++ (front ++ back)).take (done.length + (front.map (·.1)).length)).drop done.length =
      front := by
  rw [List.length_map, ← List.append_assoc, ← List.length_append, List.take_left, List.drop_left]

/-- The runs between the ends of a line are the runs that begin on it.  The cells before the first
line are counted as well. -/
theorem mem_runs_lineSpans_iff_append (region : Region) (run : Run) (done cells : List Cell)
    (line : Nat) :
    (∃ span, (Fix.lineSpans done.length (splitOn newline (cells.map (·.1))))[line]? = some span ∧
        run ∈ runsOf region span.1 (((done ++ cells).take span.2).drop span.1)) ↔
      run ∈ runsOf region done.length cells ∧
        (((done ++ cells).map (·.1)).take run.offset).count newline =
          (done.map (·.1)).count newline + line := by
  -- With every line that is done there is one newline more before the cells.
  induction length : cells.length using Nat.strongRecOn generalizing done cells line with
  | ind n ih =>
  by_cases breaks : newline ∈ cells.map (·.1)
  · obtain ⟨_, _, found, free⟩ := List.eq_append_cons_of_mem breaks
    obtain ⟨front, _, rfl, rfl, later⟩ := List.map_eq_append_iff.mp found
    obtain ⟨cell, back, rfl, breaks, rfl⟩ := List.map_eq_cons_iff.mp later
    have pieces : splitOn newline ((front ++ cell :: back).map (·.1)) =
        front.map (·.1) :: splitOn newline (back.map (·.1)) := by
      rw [List.map_append, List.map_cons, breaks, splitOn_append_cons free]
    have seen : ((done ++ front).map (·.1)).count newline = (done.map (·.1)).count newline := by
      rw [List.map_append, List.count_append, List.count_eq_zero_of_not_mem free, Nat.add_zero]
    rw [pieces, Fix.lineSpans, runsOf_append_newline breaks, List.mem_append]
    cases line with
    | zero =>
      simp only [List.getElem?_cons_zero, Option.some.injEq, exists_eq_left', drop_take_line,
        Nat.add_zero]
      constructor
      · intro mem
        exact ⟨Or.inl mem, count_take_of_mem_runsOf free mem _⟩
      · rintro ⟨mem | mem, count⟩
        · exact mem
        · have more := count_lt_count_take (done ++ front) breaks
            (by rw [List.length_append]; exact mem)
          rw [List.append_assoc] at more
          omega
    | succ line =>
      have later := ih back.length (by simp at length; omega) (done ++ front ++ [cell]) back line rfl
      have behind : (done ++ front ++ [cell]).length =
          done.length + (front.map (·.1)).length + 1 := by
        rw [List.length_append, List.length_append, List.length_map, List.length_singleton]
      have whole : done ++ front ++ [cell] ++ back = done ++ (front ++ cell :: back) := by
        rw [List.append_assoc, List.append_assoc, List.singleton_append]
      have seen : ((done ++ front ++ [cell]).map (·.1)).count newline =
          (done.map (·.1)).count newline + 1 := by
        rw [List.map_append, List.count_append, seen, List.map_singleton, breaks,
          List.count_singleton_self]
      rw [behind, whole, seen] at later
      rw [List.getElem?_cons_succ, later, List.length_map]
      constructor
      · rintro ⟨mem, count⟩
        exact ⟨Or.inr mem, by omega⟩
      · rintro ⟨mem | mem, count⟩
        · have same := count_take_of_mem_runsOf free mem (cell :: back)
          omega
        · exact ⟨mem, by omega⟩
  · have here := drop_take_line done cells []
    rw [List.append_nil] at here
    have same (mem : run ∈ runsOf region done.length cells) :
        (((done ++ cells).map (·.1)).take run.offset).count newline =
          (done.map (·.1)).count newline := by
      have counted := count_take_of_mem_runsOf breaks mem []
      rwa [List.append_nil] at counted
    rw [splitOn_of_notMem breaks, Fix.lineSpans]
    cases line with
    | zero =>
      simp only [List.getElem?_cons_zero, Option.some.injEq, exists_eq_left', here, Nat.add_zero]
      exact ⟨fun mem => ⟨mem, same mem⟩, And.left⟩
    | succ line =>
      constructor
      · rintro ⟨span, found, -⟩
        cases found
      · rintro ⟨mem, count⟩
        have none := same mem
        omega

end Lines

/-- The runs of the piece of a text between the ends of a line are the runs that begin on it. -/
theorem mem_runs_lineSpans_iff (region : Region) (text : List Char) (line : Nat) (run : Run) :
    (∃ span, (Fix.lineSpans 0 (splitOn newline (Utf8.encode text)))[line]? = some span ∧
        run ∈ (scan text).runs region span.1 span.2) ↔
      run ∈ runsOf region 0 (scan text).cells ∧ lineOf text run.offset = line + 1 := by
  have whole := mem_runs_lineSpans_iff_append region run [] (cells (Utf8.encode text)) line
  rw [List.nil_append, map_fst_cells, List.map_nil, List.count_nil, Nat.zero_add] at whole
  rw [lineOf, Nat.add_right_cancel_iff]
  exact whole

/-- All of a run is on one line. -/
theorem lineOf_add_of_mem_runs {region : Region} {text before after : List Char} {run : Run}
    (mem : run ∈ runsOf region 0 (scan text).cells) (inside : run.text = before ++ after) :
    lineOf text (run.offset + (Utf8.encode before).length) = lineOf text run.offset := by
  have free := newline_notMem_of_mem_runsOf mem
  obtain ⟨⟨front, back, split, offset⟩, -⟩ := exists_append_of_mem_runs mem
  rw [inside, Utf8.encode_append, List.mem_append, not_or] at free
  rw [lineOf, lineOf, split, offset, inside, List.append_assoc, Utf8.encode_append,
    Utf8.encode_append, List.take_left, List.take_length_add_append, List.take_left,
    List.count_append, List.count_eq_zero_of_not_mem free.1, Nat.add_zero]

end QualityGate.Source
