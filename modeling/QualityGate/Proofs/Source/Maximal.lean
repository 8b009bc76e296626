import QualityGate.Proofs.Source.Lines
import QualityGate.Proofs.Source.Stretches
import QualityGate.Proofs.Source.Views

/-!
# Runs are maximal

The runs that are cut out of a view are those that are cut out of the cells of the text
(`runs_mask`, `lineRuns_mask`).  In a range that divides no character they are all the maximal
pieces of a region.

* `IsCut` – an offset that divides no character of a text.
* `MaximalRuns` – what it means that runs are the maximal pieces of a region.
* `runs_maximal` – the runs in a range, of all lines and line by line.

### What is load-bearing

The stretches in a range are texts only because the range divides no character
(`exists_spread_range`).  A view and its text have the same line breaks, so their lines begin and
end at the same offsets.
-/

namespace QualityGate.Source

open QualityGate.Text

/-! ### Ranges that divide no character -/

/-- An offset between two characters of a text, or past its end. -/
def IsCut (text : List Char) (offset : Nat) : Prop :=
  Utf8.isBoundary (Utf8.encode text) offset = true ∨ (Utf8.encode text).length ≤ offset

instance (text : List Char) (offset : Nat) : Decidable (IsCut text offset) :=
  inferInstanceAs (Decidable (_ ∨ _))

/-- A cut of a text is a cut of what it begins with. -/
theorem IsCut.of_append {before after : List Char} {offset : Nat}
    (cut : IsCut (before ++ after) offset) : IsCut before offset := by
  by_cases past : (Utf8.encode before).length ≤ offset
  · exact Or.inr past
  · have inside : offset < (Utf8.encode before).length := Nat.lt_of_not_le past
    rw [IsCut, Utf8.encode_append, List.length_append] at cut
    have boundary := cut.resolve_right (by omega)
    rw [Utf8.isBoundary, List.getElem?_append_left inside, List.length_append] at boundary
    have notEnd : ¬ offset = (Utf8.encode before).length + (Utf8.encode after).length := by omega
    left
    simpa [Utf8.isBoundary, notEnd, Nat.ne_of_lt inside] using boundary

/-- A cut divides the characters and their cells alike. -/
theorem exists_append_of_isCut {marked : List (Char × Kind)} {offset : Nat}
    (cut : IsCut (marked.map (·.1)) offset) :
    ∃ front back, marked = front ++ back ∧ (spread marked).take offset = spread front ∧
      (spread marked).drop offset = spread back := by
  by_cases past : (Utf8.encode (marked.map (·.1))).length ≤ offset
  · rw [← length_spread] at past
    exact ⟨marked, [], (List.append_nil _).symm, List.take_of_length_le past,
      List.drop_of_length_le past⟩
  · obtain ⟨before, after, split, bytes⟩ :=
      Utf8.exists_append_of_isBoundary (cut.resolve_right past)
    obtain ⟨front, back, rfl, rfl, -⟩ := List.map_eq_append_iff.mp split
    have length : (spread front).length = offset := by
      rw [length_spread, bytes, List.length_take]
      omega
    refine ⟨front, back, rfl, ?_, ?_⟩
    · rw [spread_append, ← length, List.take_left]
    · rw [spread_append, ← length, List.drop_left]

/-- The cells between two cuts of a text are those of characters. -/
theorem exists_spread_range {text : List Char} {start stop : Nat} (starts : IsCut text start)
    (stops : IsCut text stop) :
    ∃ marked, (((scan text).cells).take stop).drop start = spread marked := by
  obtain ⟨marked, rfl, whole⟩ := exists_spread text
  obtain ⟨front, back, rfl, taken, -⟩ := exists_append_of_isCut stops
  rw [List.map_append] at starts
  obtain ⟨-, rest, -, -, dropped⟩ := exists_append_of_isCut starts.of_append
  refine ⟨rest, ?_⟩
  rw [← dropped, ← taken, ← whole]
  rfl

/-! ### Runs and stretches -/

/-- Where no character is divided, no stretch is left out. -/
theorem map_runsOf_spread (region : Region) (offset : Nat) (marked : List (Char × Kind)) :
    (runsOf region offset (spread marked)).map (fun run => (run.offset, Utf8.encode run.text)) =
      stretches (inRun region) offset (spread marked) := by
  rw [runsOf, List.map_filterMap]
  have kept : ∀ stretch ∈ stretches (inRun region) offset (spread marked),
      (((Utf8.decode? stretch.2).map fun text => Run.mk stretch.1 text).map
        fun run => (run.offset, Utf8.encode run.text)) = some stretch := by
    intro stretch mem
    obtain ⟨text, bytes⟩ := exists_encode_of_mem_stretches mem
    rw [Utf8.decode?_eq_some_iff.mpr bytes, Option.map_some, Option.map_some, bytes]
  rw [List.filterMap_congr kept, List.filterMap_some]

/-! ### The runs of a view -/

theorem cells_mask (text : List Char) (region : Region) :
    (mask text).cells region =
      (scan text).cells.map fun cell => (veilByte region cell, cell.2) := by
  have kinds : (mask text).kinds = (scan text).cells.map (·.2) := (map_snd_cells _).symm
  rw [Masked.cells, encode_text_mask, view_eq_map, kinds]
  exact List.zip_map'

/-- A view shows what is in the region. -/
theorem veilByte_of_inRun {region : Region} {cell : Cell} (inside : inRun region cell = true) :
    veilByte region cell = cell.1 := by
  rw [inRun, decide_eq_true_iff] at inside
  exact if_pos (Or.inr inside.1)

theorem veilByte_eq_newline_iff {region : Region} {cell : Cell} :
    veilByte region cell = newline ↔ cell.1 = newline := by
  rw [veilByte]
  split
  · exact Iff.rfl
  · next hidden =>
    exact ⟨fun blank => absurd blank (by decide), fun breaks => absurd (Or.inl breaks) hidden⟩

/-- So one can see in a view where runs are. -/
theorem map_inRun_cells_mask (text : List Char) (region : Region) :
    ((mask text).cells region).map (inRun region) = (scan text).cells.map (inRun region) := by
  rw [cells_mask, List.map_map]
  refine List.map_congr_left fun cell _ => ?_
  simp only [Function.comp, inRun, ne_eq, veilByte_eq_newline_iff]

/-- A piece of the bytes of a text is read as a text in place, or not at all. -/
theorem slice?_bind_decode? {text : List Char} {front piece back : Bytes} (some : piece ≠ [])
    (whole : Utf8.encode text = front ++ (piece ++ back)) :
    (Utf8.slice? (Utf8.encode text) front.length (front.length + piece.length)).bind Utf8.decode? =
      Utf8.decode? piece := by
  cases read : Utf8.decode? piece with
  | none =>
    rw [Utf8.slice?]
    split
    · rw [whole, ← List.append_assoc, ← List.length_append, List.take_left, List.drop_left]
      exact read
    · rfl
  | some found =>
    obtain rfl := Utf8.decode?_eq_some_iff.mp read
    have nonempty : found ≠ [] := by
      rintro rfl
      exact some rfl
    obtain ⟨before, after, rfl, rfl, rfl⟩ := Utf8.exists_append_of_encode_eq nonempty whole
    have cut := Utf8.slice?_encode_append before found after
    rw [Utf8.encode_append before found, List.length_append] at cut
    rw [cut, Option.bind_some, read]

/-- **A view has the runs of its text.** -/
theorem runs_mask (text : List Char) (region : Region) (start stop : Nat) :
    (mask text).runs region start stop = (scan text).runs region start stop := by
  have inside : ((((mask text).cells region).take stop).drop start).map (inRun region) =
      (((scan text).cells.take stop).drop start).map (inRun region) := by
    rw [List.map_drop, List.map_take, map_inRun_cells_mask, ← List.map_take, ← List.map_drop]
  rw [Masked.runs, inside, spansFrom_eq, List.filterMap_map, Scanned.runs, runsOf]
  refine List.filterMap_congr fun stretch mem => ?_
  obtain ⟨front, piece, back, range, place, bytes, some, kept⟩ :=
    exists_append_of_mem_stretches (mem : (stretch.1, stretch.2) ∈ _)
  obtain ⟨done, rest, whole, length⟩ := exists_append_of_drop_take some range
  have seen : Utf8.encode ((mask text).text region) =
      done.map (veilByte region) ++ (stretch.2 ++ rest.map (veilByte region)) := by
    have same : piece.map (veilByte region) = piece.map (·.1) :=
      List.map_congr_left fun cell mem => veilByte_of_inRun (kept cell mem)
    have cells : cells (Utf8.encode text) = done ++ (piece ++ rest) := whole
    rw [encode_text_mask, view_eq_map, cells, List.map_append, List.map_append, same, ← bytes]
  have nonempty : stretch.2 ≠ [] := by
    rw [bytes]
    exact mt List.map_eq_nil_iff.mp some
  have read := slice?_bind_decode? nonempty seen
  rw [List.length_map, length, ← place] at read
  exact congrArg (Option.map (Run.mk stretch.1)) read

/-! ### The lines of a view -/

theorem lineRunsFrom_eq (source : Masked) (region : Region) (offset : Nat) (lines : List Bytes) :
    source.lineRunsFrom region offset lines =
      (Fix.lineSpans offset lines).map fun span => source.runs region span.1 span.2 := by
  induction lines generalizing offset with
  | nil => rfl
  | cons line lines ih => rw [Masked.lineRunsFrom, ih, Fix.lineSpans, List.map_cons]

/-- Where lines begin and end depends on how long they are. -/
theorem lineSpans_congr {lines lines' : List Bytes}
    (same : lines.map List.length = lines'.map List.length) (offset : Nat) :
    Fix.lineSpans offset lines = Fix.lineSpans offset lines' := by
  induction lines generalizing lines' offset with
  | nil =>
    rw [List.map_nil, eq_comm, List.map_eq_nil_iff] at same
    rw [same]
  | cons line lines ih =>
    obtain ⟨line', lines'', rfl, length, others⟩ := List.map_eq_cons_iff.mp same.symm
    rw [Fix.lineSpans, Fix.lineSpans, length, ih others.symm]

/-- **A view has the runs of its text line by line.** -/
theorem lineRuns_mask (text : List Char) (region : Region) :
    (mask text).lineRuns region = (scan text).lineRuns region := by
  have breaks : (splitOn newline (view region (Utf8.encode text))).map List.length =
      (splitOn newline (Utf8.encode text)).map List.length := by
    have alike : ∀ cell ∈ cells (Utf8.encode text),
        veilByte region cell = newline ↔ cell.1 = newline := fun _ _ => veilByte_eq_newline_iff
    rw [view_eq_map, map_length_splitOn_map alike, map_fst_cells]
  rw [Masked.lineRuns, lineRunsFrom_eq, encode_text_mask, lineSpans_congr breaks, lineRuns_eq]
  exact List.map_congr_left fun span _ => runs_mask text region span.1 span.2

/-! ### Maximal runs -/

/-- The offset of the first byte behind a run. -/
def Run.stop (run : Run) : Nat := run.offset + (Utf8.encode run.text).length

/-- Runs are the maximal pieces of a region between two offsets of a text. -/
structure MaximalRuns (region : Region) (text : List Char) (start stop : Nat) (runs : List Run) :
    Prop where
  /-- They are in order, and between two of them is a byte that is in neither. -/
  apart : runs.Pairwise fun run later => run.stop < later.offset
  nonempty : ∀ run ∈ runs, run.text ≠ []
  oneLine : ∀ run ∈ runs, '\n' ∉ run.text
  /-- They are pieces of the text at their offsets. -/
  slice : ∀ run ∈ runs,
    Utf8.slice? (Utf8.encode text) run.offset run.stop = some (Utf8.encode run.text)
  /-- They cover exactly the bytes in the range that have the kind of the region and are no
  newline. -/
  covers : ∀ place, (∃ run ∈ runs, run.offset ≤ place ∧ place < run.stop) ↔
    start ≤ place ∧ place < stop ∧ ∃ byte, (Utf8.encode text)[place]? = some byte ∧
      byte ≠ newline ∧ (kinds (Utf8.encode text))[place]? = some region.kind

/-- The cells of a range, looked at from its beginning. -/
theorem getElem?_range {items : List Cell} {start stop place : Nat} {cell : Cell} :
    ((items.take stop).drop start)[place]? = some cell ↔
      start + place < stop ∧ items[start + place]? = some cell := by
  rw [List.getElem?_drop, List.getElem?_take]
  split
  · next inside => simp [inside]
  · next outside => simp [outside]

theorem covered_iff {region : Region} {text : List Char} {place : Nat} :
    (∃ cell, (scan text).cells[place]? = some cell ∧ inRun region cell = true) ↔
      ∃ byte, (Utf8.encode text)[place]? = some byte ∧ byte ≠ newline ∧
        (kinds (Utf8.encode text))[place]? = some region.kind := by
  constructor
  · rintro ⟨⟨byte, kind⟩, found, inside⟩
    obtain ⟨byte', kind'⟩ := getElem?_cells.mp found
    rw [inRun, decide_eq_true_iff] at inside
    obtain ⟨rfl, other⟩ := inside
    exact ⟨byte, byte', other, kind'⟩
  · rintro ⟨byte, found, other, kind⟩
    exact ⟨(byte, region.kind), getElem?_cells.mpr ⟨found, kind⟩, decide_eq_true ⟨rfl, other⟩⟩

/-- The runs between two cuts are maximal. -/
theorem maximalRuns_of_isCut {text : List Char} {start stop : Nat} (starts : IsCut text start)
    (stops : IsCut text stop) (region : Region) :
    MaximalRuns region text start stop ((scan text).runs region start stop) := by
  obtain ⟨marked, range⟩ := exists_spread_range starts stops
  have stretched : ((scan text).runs region start stop).map
      (fun run => (run.offset, Utf8.encode run.text)) =
        stretches (inRun region) start (((scan text).cells.take stop).drop start) := by
    rw [Scanned.runs, range, map_runsOf_spread]
  refine ⟨?apart, ?nonempty, ?oneLine, ?slice, ?covers⟩
  case apart =>
    have apart := pairwise_stretches (inRun region) start
      (((scan text).cells.take stop).drop start)
    rwa [← stretched, List.pairwise_map] at apart
  case nonempty => exact fun run mem => (exists_append_of_mem_range mem).2.1
  case oneLine =>
    intro run mem breaks
    have byte : newline ∈ Utf8.encode run.text := List.mem_flatMap.mpr ⟨'\n', breaks, by decide⟩
    exact newline_notMem_of_mem_runsOf mem byte
  case slice =>
    intro run mem
    obtain ⟨⟨before, after, split, offset⟩, -⟩ := exists_append_of_mem_range mem
    have slice := Utf8.slice?_encode_append before run.text after
    rwa [← split, Utf8.encode_append before, List.length_append, ← offset] at slice
  case covers =>
    intro place
    have listed : (∃ run ∈ (scan text).runs region start stop,
        run.offset ≤ place ∧ place < run.stop) ↔
          ∃ stretch ∈ stretches (inRun region) start (((scan text).cells.take stop).drop start),
            stretch.1 ≤ place ∧ place < stretch.1 + stretch.2.length := by
      rw [← stretched]
      simp only [List.mem_map, exists_exists_and_eq_and, Run.stop]
    rw [listed]
    by_cases later : start ≤ place
    · obtain ⟨distance, rfl⟩ := Nat.exists_eq_add_of_le later
      rw [exists_mem_stretches_iff]
      simp only [getElem?_range, and_assoc, exists_and_left, covered_iff, later, true_and]
    · constructor
      · rintro ⟨stretch, mem, first, -⟩
        have begins := le_of_mem_stretches mem
        omega
      · rintro ⟨first, -⟩
        exact absurd first later

/-- **Runs are maximal.**  Between two offsets that divide no character of a text, or lie past its
end, the runs of a region are its maximal pieces.  The runs of all lines are those of the text, and
a line has those of them that begin on it. -/
theorem runs_maximal (region : Region) (text : List Char) :
    (∀ start stop, IsCut text start → IsCut text stop →
      MaximalRuns region text start stop ((mask text).runs region start stop)) ∧
    ((mask text).lineRuns region).flatten =
      (mask text).runs region 0 (Utf8.encode text).length ∧
    (mask text).lineRuns region = (List.range (text.count '\n' + 1)).map fun line =>
      ((mask text).runs region 0 (Utf8.encode text).length).filter fun run =>
        lineOf text run.offset = line + 1 := by
  rw [lineRuns_mask, runs_mask, runs_all]
  refine ⟨fun start stop starts stops => ?_, Scanned.flatten_lineRuns region 0 _,
    lineRuns_eq_filter region text⟩
  rw [runs_mask]
  exact maximalRuns_of_isCut starts stops region

/-- A comment of two lines between two letters. -/
def commentText : List Char := "a /*ü\n*/é".toList

/-- The rest of the text from within the comment on, and further. -/
theorem runs_maximal_comment :
    IsCut commentText 4 ∧ IsCut commentText 20 ∧
      MaximalRuns .comments commentText 4 20 [⟨4, "ü".toList⟩, ⟨7, "*/".toList⟩] ∧
      ((mask commentText).lineRuns .comments).flatten =
        [⟨2, "/*ü".toList⟩, ⟨7, "*/".toList⟩] := by
  have starts : IsCut commentText 4 := by decide
  have stops : IsCut commentText 20 := by decide
  have rest : (mask commentText).runs .comments 4 20 = [⟨4, "ü".toList⟩, ⟨7, "*/".toList⟩] := by
    decide +kernel
  have all : (mask commentText).runs .comments 0 (Utf8.encode commentText).length =
      [⟨2, "/*ü".toList⟩, ⟨7, "*/".toList⟩] := by decide +kernel
  obtain ⟨maximal, lines, -⟩ := runs_maximal .comments commentText
  exact ⟨starts, stops, rest ▸ maximal 4 20 starts stops, lines.trans all⟩

end QualityGate.Source
