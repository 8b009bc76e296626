import QualityGate.Proofs.Source.Grammar
import QualityGate.Proofs.Source.Runs

/-!
# Hidden text

A literal or a comment that has its end in itself is hidden from whoever looks at the code around
it: nothing but the number of its lines shows.

* `modeAfter` – the mode in which the pass stands after some bytes.
* `Closed` – the tokens that have their end in themselves.
* `kinds_splice` – behind bytes after which the pass stands in code, such a token is passed as a
  whole, and what follows is read as if nothing came before it.
* `lineTexts` – the texts of the runs of a region, line by line: what rules look at.
* `lineTexts_append_hidden` – cells outside the region cut the line that they begin on from the line
  that they end on, and every line break among them makes an empty line.

### What is load-bearing

The pass looks at two bytes at once, so it is not enough to know the mode in which it stands: with a
slash at the end of one part and a slash or star at the beginning of the next there is a token that
belongs to neither.
-/

namespace QualityGate.Source

open QualityGate.Text (Bytes)
open QualityGate.Text

/-! ### The mode after some bytes -/

/-- The mode in which the pass stands after some bytes, beginning in a mode.  Within a comment or
literal that is not closed it stands in the mode of the comment or literal. -/
def modeAfter : Mode → Bytes → Mode
  | mode, [] => mode
  | .normal, a :: b :: rest =>
    if a = slash ∧ b = slash then modeAfter .lineComment rest
    else if a = slash ∧ b = star then modeAfter .blockComment rest
    else if isQuote a then modeAfter (.quoted a) (b :: rest)
    else modeAfter .normal (b :: rest)
  | .normal, [a] => if isQuote a then .quoted a else .normal
  | .lineComment, a :: rest =>
    if a = newline then modeAfter .normal rest else modeAfter .lineComment rest
  | .blockComment, a :: b :: rest =>
    if a = star ∧ b = slash then modeAfter .normal rest else modeAfter .blockComment (b :: rest)
  | .blockComment, [_] => .blockComment
  | .quoted quote, a :: b :: rest =>
    if a = backslash then modeAfter (.quoted quote) rest
    else modeAfter (if a = quote then .normal else .quoted quote) (b :: rest)
  | .quoted quote, [a] =>
    if a = backslash then .quoted quote else if a = quote then .normal else .quoted quote

/-- No token goes across from one part to the next. -/
def Apart (front back : Bytes) : Prop :=
  front.getLast? = some slash → back.head? ≠ some slash ∧ back.head? ≠ some star

theorem Apart.of_cons {a : UInt8} {front back : Bytes} (apart : Apart (a :: front) back) :
    Apart front back := by
  intro last
  refine apart ?_
  cases front with
  | nil => cases last
  | cons b front => rwa [List.getLast?_cons_cons]

/-- What the pass says of the bytes behind a token does not depend on the token. -/
theorem kindsFrom_of_begins {form : Form} {token rest : Bytes} (begins : Begins form token rest) :
    kindsFrom .normal (token ++ rest) =
      List.replicate token.length form.kind ++ kindsFrom .normal rest := by
  rw [kindsFrom_normal_eq, begins.firstToken_eq, List.drop_left]

/-- **Where the pass stands in code it begins anew.** -/
theorem kindsFrom_append {mode : Mode} {front back : Bytes}
    (code : modeAfter mode front = .normal) (apart : Apart front back) :
    kindsFrom mode (front ++ back) = kindsFrom mode front ++ kindsFrom .normal back := by
  fun_induction modeAfter mode front with
  | case1 mode => rw [code, kindsFrom_nil, List.nil_append, List.nil_append]
  | case2 a b rest line ih => simp [kindsFrom, line, ih code apart.of_cons.of_cons]
  | case3 a b rest noLine block ih =>
    simp only [List.cons_append, kindsFrom, if_neg noLine, if_pos block,
      ih code apart.of_cons.of_cons]
  | case4 a b rest noLine noBlock opens ih =>
    simpa [kindsFrom, noLine, noBlock, opens] using ih code apart.of_cons
  | case5 a b rest noLine noBlock plain ih =>
    simpa [kindsFrom, noLine, noBlock, plain] using ih code apart.of_cons
  | case6 a opens => cases code
  | case7 a plain =>
    have begins : Begins .code [a] back := by
      refine .code (Bool.eq_false_iff.mpr plain) fun first => apart ?_
      rw [first]
      rfl
    rw [kindsFrom_of_begins begins, kindsFrom, if_neg plain]
    rfl
  | case8 rest ih => simp [kindsFrom, ih code apart.of_cons]
  | case9 a rest other ih => simp [kindsFrom, other, ih code apart.of_cons]
  | case10 a b rest closes ih => simp [kindsFrom, closes, ih code apart.of_cons.of_cons]
  | case11 a b rest other ih => simpa [kindsFrom, other] using ih code apart.of_cons
  | case12 a => cases code
  | case13 quote b rest ih => simp [kindsFrom, ih code apart.of_cons.of_cons]
  | case14 quote a b rest plain ih => simpa [kindsFrom, plain] using ih code apart.of_cons
  | case15 quote => cases code
  | case16 quote plain => cases back <;> simp [kindsFrom, plain]
  | case17 quote a plain other => cases code

/-! ### Tokens that have their end in themselves -/

/-- A literal with its closing quote, or a block comment with its closing delimiter. -/
inductive Closed : Form → Bytes → Prop where
  | blockComment {body : Bytes} (first : ¬ close <:+: body) :
    Closed .blockComment (slash :: star :: (body ++ close))
  | literal {quote : UInt8} {body : Bytes} (opens : isQuote quote = true)
      (inner : Inner quote body) : Closed (.ofQuote quote) (quote :: (body ++ [quote]))

namespace Closed

variable {form : Form} {token : Bytes}

/-- Such a token is one whatever follows. -/
theorem begins (closed : Closed form token) (rest : Bytes) : Begins form token rest := by
  cases closed with
  | blockComment first => exact .blockComment first
  | literal opens inner => exact .literal opens inner

theorem ne_nil (closed : Closed form token) : token ≠ [] := (closed.begins []).ne_nil

theorem kind_ne_code (closed : Closed form token) : form.kind ≠ .code := by
  cases closed with
  | blockComment first => decide
  | literal opens inner =>
    rw [Form.kind_ofQuote]
    decide

/-- A literal is apart from what comes before it. -/
theorem apart {front rest : Bytes} (closed : Closed form token)
    (slashes : form = .blockComment → front.getLast? ≠ some slash) :
    Apart front (token ++ rest) := by
  intro last
  cases closed with
  | blockComment first => exact absurd last (slashes rfl)
  | @literal quote body opens inner =>
    have noSlash : quote ≠ slash := by
      rintro rfl
      cases opens
    have noStar : quote ≠ star := by
      rintro rfl
      cases opens
    simp [noSlash, noStar]

end Closed

/-- **A token in the middle.**  The pass takes the token as a whole and reads what follows as if
nothing came before it. -/
theorem kinds_splice {form : Form} {front token back : Bytes}
    (code : modeAfter .normal front = .normal) (closed : Closed form token)
    (slashes : form = .blockComment → front.getLast? ≠ some slash) :
    kinds (front ++ (token ++ back)) =
      kinds front ++ (List.replicate token.length form.kind ++ kinds back) := by
  rw [kinds_eq_kindsFrom, kinds_eq_kindsFrom, kinds_eq_kindsFrom,
    kindsFrom_append code (closed.apart slashes), kindsFrom_of_begins (closed.begins back)]

theorem zip_replicate (bytes : Bytes) (kind : Kind) :
    bytes.zip (List.replicate bytes.length kind) = bytes.map (·, kind) := by
  induction bytes with
  | nil => rfl
  | cons b bytes ih => rw [List.length_cons, List.replicate_succ, List.zip_cons_cons, ih]; rfl

/-- The same for the bytes with their kinds. -/
theorem cells_splice {form : Form} {front token back : Bytes}
    (code : modeAfter .normal front = .normal) (closed : Closed form token)
    (slashes : form = .blockComment → front.getLast? ≠ some slash) :
    cells (front ++ (token ++ back)) =
      cells front ++ (token.map (·, form.kind) ++ cells back) := by
  rw [cells, kinds_splice code closed slashes, List.zip_append (length_kinds front).symm,
    List.zip_append List.length_replicate.symm, zip_replicate]
  rfl

/-! ### Offsets -/

section Offsets

variable {keep : Cell → Bool} {region : Region}

/-- A stretch is where it is because of the offset of the first cell. -/
theorem stretches_add (offset more : Nat) (cells : List Cell) :
    stretches keep (offset + more) cells =
      (stretches keep offset cells).map fun (start, bytes) => (start + more, bytes) := by
  induction cells generalizing offset with
  | nil => rfl
  | cons cell rest ih =>
    have later := ih (offset + 1)
    rw [Nat.add_right_comm] at later
    rw [stretches, stretches, later]
    split
    · cases stretches keep (offset + 1) rest with
      | nil => rfl
      | cons first others =>
        have same : first.1 + more = offset + more + 1 ↔ first.1 = offset + 1 := by omega
        simp only [List.map_cons, same]
        split <;> rfl
    · rfl

/-- The texts of the runs of a line. -/
def runTexts (region : Region) (line : List Cell) : List (List Char) :=
  (runsOf region 0 line).map (·.text)

/-- The texts do not depend on where the line begins. -/
theorem map_text_runsOf (region : Region) (offset : Nat) (line : List Cell) :
    (runsOf region offset line).map (·.text) = runTexts region line := by
  rw [runTexts, runsOf, runsOf, ← Nat.zero_add offset, stretches_add, List.filterMap_map,
    List.map_filterMap, List.map_filterMap]
  simp [Function.comp_def]

/-- A cell outside the region separates the runs before it from those after it. -/
theorem runTexts_append_cons {cell : Cell} (outside : inRun region cell = false)
    (front back : List Cell) :
    runTexts region (front ++ cell :: back) = runTexts region front ++ runTexts region back := by
  rw [runTexts, runsOf, stretches_append_cons outside, List.filterMap_append, List.map_append]
  exact congrArg _ (map_text_runsOf region _ back)

theorem runTexts_cons {cell : Cell} (outside : inRun region cell = false) (line : List Cell) :
    runTexts region (cell :: line) = runTexts region line :=
  runTexts_append_cons outside [] line

/-- What begins with a cell outside the region is apart from what comes before it. -/
theorem runTexts_append {back : List Cell}
    (outside : ∀ cell ∈ back.head?, inRun region cell = false) (front : List Cell) :
    runTexts region (front ++ back) = runTexts region front ++ runTexts region back := by
  cases back with
  | nil => simp [runTexts, runsOf, stretches]
  | cons cell back =>
    have first := outside cell rfl
    rw [runTexts_append_cons first, runTexts_cons first]

end Offsets

/-! ### Lines -/

namespace Scanned

theorem splitLines_newline {cell : Cell} (breaks : cell.1 = newline) (cells : List Cell) :
    splitLines (cell :: cells) = [] :: splitLines cells := by
  rw [splitLines, if_pos breaks]

theorem splitLines_ne_nil (cells : List Cell) : splitLines cells ≠ [] := by
  fun_cases splitLines cells <;> simp_all

/-- A cell that is no line break goes to the front of the first line. -/
theorem exists_splitLines_cons {cell : Cell} (other : cell.1 ≠ newline) (cells : List Cell) :
    ∃ line lines, splitLines cells = line :: lines ∧
      splitLines (cell :: cells) = (cell :: line) :: lines := by
  obtain ⟨line, lines, found⟩ := List.exists_cons_of_ne_nil (splitLines_ne_nil cells)
  exact ⟨line, lines, found, by rw [splitLines, if_neg other, found]⟩

/-- The last line of the first part goes on with the first line of the second. -/
theorem splitLines_append {front back : List Cell} {rows more : List (List Cell)}
    {last first : List Cell} (done : splitLines front = rows ++ [last])
    (next : splitLines back = first :: more) :
    splitLines (front ++ back) = rows ++ (last ++ first) :: more := by
  induction front generalizing rows last with
  | nil =>
    obtain ⟨rfl, rfl⟩ : rows = [] ∧ last = [] := by
      cases rows with
      | nil => exact ⟨rfl, by simpa [splitLines] using done.symm⟩
      | cons row rows => simp [splitLines] at done
    exact next
  | cons cell front ih =>
    by_cases breaks : cell.1 = newline
    · rw [splitLines_newline breaks] at done
      rw [List.cons_append, splitLines_newline breaks]
      cases rows with
      | nil => exact absurd (List.cons.inj done).2 (splitLines_ne_nil front)
      | cons row rows =>
        obtain ⟨rfl, later⟩ := List.cons.inj done
        rw [ih later]
        rfl
    · obtain ⟨line, lines, found, whole⟩ := exists_splitLines_cons breaks front
      rw [whole] at done
      rw [List.cons_append, splitLines, if_neg breaks]
      cases rows with
      | nil =>
        obtain ⟨rfl, rfl⟩ := List.cons.inj done
        have rest : splitLines front = [] ++ [line] := found
        rw [ih rest]
        rfl
      | cons row rows =>
        obtain ⟨rfl, rfl⟩ := List.cons.inj done
        have rest : splitLines front = (line :: rows) ++ [_] := found
        rw [ih rest]
        rfl

theorem splitLines_of_free {cells : List Cell} (free : newline ∉ cells.map (·.1)) :
    splitLines cells = [cells] := by
  induction cells with
  | nil => rfl
  | cons cell cells ih =>
    rw [List.map_cons, List.mem_cons, not_or] at free
    rw [splitLines, if_neg (Ne.symm free.1), ih free.2]

/-- A line break cuts off what comes before it. -/
theorem splitLines_append_newline {front : List Cell} {cell : Cell}
    (free : newline ∉ front.map (·.1)) (breaks : cell.1 = newline) (back : List Cell) :
    splitLines (front ++ cell :: back) = front :: splitLines back := by
  have whole : splitLines front = [] ++ [front] := splitLines_of_free free
  rw [splitLines_append whole (splitLines_newline breaks back), List.append_nil]
  rfl

/-- The runs of the lines are those of the cells. -/
theorem flatten_lineRuns (region : Region) (offset : Nat) (cells : List Cell) :
    ((linesFrom offset (splitLines cells)).map fun (offset, line) =>
      runsOf region offset line).flatten = runsOf region offset cells := by
  by_cases breaks : newline ∈ cells.map (·.1)
  · obtain ⟨_, _, found, free⟩ := List.eq_append_cons_of_mem breaks
    obtain ⟨front, _, rfl, rfl, later⟩ := List.map_eq_append_iff.mp found
    obtain ⟨cell, back, rfl, breaks, rfl⟩ := List.map_eq_cons_iff.mp later
    rw [splitLines_append_newline free breaks, linesFrom, List.map_cons, List.flatten_cons,
      flatten_lineRuns region _ back, runsOf_append_newline breaks]
  · rw [splitLines_of_free breaks]
    simp [linesFrom]
termination_by cells.length

theorem mem_runsOf_of_mem_lineRuns {source : Scanned} {region : Region} {runs : List Run}
    {run : Run} (line : runs ∈ source.lineRuns region) (mem : run ∈ runs) :
    run ∈ runsOf region 0 source.cells := by
  rw [← flatten_lineRuns]
  exact List.mem_flatten_of_mem line mem

end Scanned

open Scanned (splitLines)

/-- The texts of the runs of a region, line by line. -/
def lineTexts (region : Region) (cells : List Cell) : List (List (List Char)) :=
  (splitLines cells).map (runTexts region)

theorem map_text_lineRuns (source : Scanned) (region : Region) :
    (source.lineRuns region).map (·.map (·.text)) = lineTexts region source.cells := by
  have from_offset (offset : Nat) (lines : List (List Cell)) :
      (Scanned.linesFrom offset lines).map (fun (offset, line) =>
        (runsOf region offset line).map (·.text)) = lines.map (runTexts region) := by
    induction lines generalizing offset with
    | nil => rfl
    | cons line lines ih =>
      rw [Scanned.linesFrom, List.map_cons, List.map_cons, ih]
      exact congrArg (· :: _) (map_text_runsOf region offset line)
  rw [Scanned.lineRuns, List.map_map]
  exact from_offset 0 _

section Hidden

variable {region : Region} {front back back' piece piece' : List Cell}

/-- Hidden cells leave an empty line for every line break among them. -/
theorem lineTexts_hidden_append (hidden : ∀ cell ∈ piece, inRun region cell = false)
    (back : List Cell) :
    lineTexts region (piece ++ back) =
      List.replicate ((piece.map (·.1)).count newline) [] ++ lineTexts region back := by
  induction piece with
  | nil => rfl
  | cons cell piece ih =>
    obtain ⟨outside, others⟩ := List.forall_mem_cons.mp hidden
    by_cases breaks : cell.1 = newline
    · rw [List.cons_append, lineTexts, Scanned.splitLines_newline breaks, List.map_cons,
        ← lineTexts, ih others, List.map_cons, breaks, List.count_cons_self, List.replicate_succ]
      rfl
    · obtain ⟨line, lines, found, whole⟩ := Scanned.exists_splitLines_cons breaks (piece ++ back)
      have same :
          lineTexts region (cell :: (piece ++ back)) = lineTexts region (piece ++ back) := by
        rw [lineTexts, lineTexts, whole, found, List.map_cons, List.map_cons, runTexts_cons outside]
      rw [List.cons_append, same, ih others, List.map_cons, List.count_cons_of_ne breaks]

/-- Cells that are apart from what comes before them may be exchanged for others with the same
texts. -/
theorem lineTexts_append_congr (front : List Cell)
    (outside : ∀ cell ∈ back.head?, inRun region cell = false)
    (outside' : ∀ cell ∈ back'.head?, inRun region cell = false)
    (same : lineTexts region back = lineTexts region back') :
    lineTexts region (front ++ back) = lineTexts region (front ++ back') := by
  obtain ⟨rows, last, done⟩ := (List.eq_nil_or_concat' (splitLines front)).resolve_left
    (Scanned.splitLines_ne_nil front)
  -- Only the last line in front and the first line behind are put together.
  have texts {back : List Cell} (outside : ∀ cell ∈ back.head?, inRun region cell = false) :
      ∃ first more, lineTexts region back = first :: more ∧ lineTexts region (front ++ back) =
        rows.map (runTexts region) ++ (runTexts region last ++ first) :: more := by
    obtain ⟨first, more, next⟩ :=
      List.exists_cons_of_ne_nil (Scanned.splitLines_ne_nil back)
    refine ⟨runTexts region first, more.map (runTexts region), by rw [lineTexts, next]; rfl, ?_⟩
    rw [lineTexts, Scanned.splitLines_append done next, List.map_append, List.map_cons,
      runTexts_append]
    intro cell mem
    cases back with
    | nil =>
      cases next
      cases mem
    | cons head back =>
      by_cases breaks : head.1 = newline
      · rw [Scanned.splitLines_newline breaks] at next
        cases next
        cases mem
      · obtain ⟨line, lines, -, whole⟩ := Scanned.exists_splitLines_cons breaks back
        rw [whole] at next
        cases next
        cases mem
        exact outside _ rfl
  obtain ⟨first, more, found, whole⟩ := texts outside
  obtain ⟨first', more', found', whole'⟩ := texts outside'
  rw [found, found'] at same
  cases same
  rw [whole, whole']

/-- **Hidden cells may be exchanged** for others with as many line breaks. -/
theorem lineTexts_append_hidden (some : piece ≠ []) (some' : piece' ≠ [])
    (hidden : ∀ cell ∈ piece, inRun region cell = false)
    (hidden' : ∀ cell ∈ piece', inRun region cell = false)
    (lines : (piece.map (·.1)).count newline = (piece'.map (·.1)).count newline)
    (front back : List Cell) :
    lineTexts region (front ++ (piece ++ back)) = lineTexts region (front ++ (piece' ++ back)) := by
  have first {piece : List Cell} (some : piece ≠ [])
      (hidden : ∀ cell ∈ piece, inRun region cell = false) :
      ∀ cell ∈ (piece ++ back).head?, inRun region cell = false := by
    obtain ⟨cell, piece, rfl⟩ := List.exists_cons_of_ne_nil some
    rintro _ ⟨rfl⟩
    exact hidden _ List.mem_cons_self
  refine lineTexts_append_congr front (first some hidden) (first some' hidden') ?_
  rw [lineTexts_hidden_append hidden, lineTexts_hidden_append hidden', lines]

/-- No run reaches into hidden cells, or across them. -/
theorem le_or_le_of_mem_runsOf {run : Run} (some : piece ≠ [])
    (hidden : ∀ cell ∈ piece, inRun region cell = false)
    (mem : run ∈ runsOf region 0 (front ++ (piece ++ back))) :
    run.offset + (Utf8.encode run.text).length ≤ front.length ∨
      front.length + piece.length ≤ run.offset := by
  obtain ⟨before, inside, after, whole, place, bytes, nonempty, kept⟩ :=
    exists_append_of_mem_runsOf mem
  rw [Nat.zero_add] at place
  rw [bytes, List.length_map, place]
  by_contra reaches
  rw [not_or, Nat.not_le, Nat.not_le] at reaches
  -- There would be a place that the run and the hidden cells have in common.
  obtain ⟨common, ofRun, ofPiece⟩ : ∃ common,
      (before.length ≤ common ∧ common - before.length < inside.length) ∧
        front.length ≤ common ∧ common - front.length < piece.length := by
    have length := List.length_pos_iff.mpr some
    have length' := List.length_pos_iff.mpr nonempty
    exact ⟨max before.length front.length, by omega⟩
  have same := congrArg (·[common]?) whole
  rw [List.getElem?_append_right ofRun.1, List.getElem?_append_right ofPiece.1,
    List.getElem?_append_left ofRun.2, List.getElem?_append_left ofPiece.2,
    List.getElem?_eq_getElem ofRun.2, List.getElem?_eq_getElem ofPiece.2, Option.some.injEq] at same
  have outside := hidden _ (List.getElem_mem ofPiece.2)
  rw [same, kept _ (List.getElem_mem ofRun.2)] at outside
  cases outside

end Hidden

end QualityGate.Source
