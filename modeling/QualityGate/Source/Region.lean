import QualityGate.Source.Kind
import QualityGate.Text.Lines

/-!
# The regions of a source file

A rule looks at one region, executable code or comments.  There are two ways to look at it.

* A *view* is the file with everything outside the region blanked.  Newlines stay, so lines and
  offsets are those of the file.
* A *run* is a maximal piece of a line that lies in the region.  Matching is done run by run, never
  on a view, because a pattern that accepts blanks would otherwise reach across the blanks that
  stand for a literal.

Offsets count bytes.  A piece that would start or end inside a character is not a run.
-/

namespace QualityGate.Source

open QualityGate.Text

/-- The part of a file that a rule looks at. -/
inductive Region where
  | code
  | comments
  deriving DecidableEq, Repr

namespace Region

/-- The kind of the bytes in the region. -/
def kind : Region → Kind
  | code => .code
  | comments => .comment

/-- The name of the region in documents. -/
def name : Region → String
  | code => "code"
  | comments => "comments"

/-- The regions with their names. -/
def names : List (String × Region) := [("code", code), ("comments", comments)]

end Region

/-- A byte with its kind. -/
abbrev Cell := UInt8 × Kind

/-- The bytes of a text with their kinds. -/
def cells (bytes : Bytes) : List Cell := bytes.zip (kinds bytes)

/-- The bytes of a text, blanked outside the region.  Newlines stay. -/
def view (region : Region) (bytes : Bytes) : Bytes :=
  (cells bytes).map fun (b, kind) => if b = newline ∨ kind = region.kind then b else space

/-- A cell that a run of the region may hold. -/
def inRun (region : Region) (cell : Cell) : Bool :=
  cell.2 = region.kind ∧ cell.1 ≠ newline

/-- A piece of text and the offset of its first byte. -/
structure Run where
  offset : Nat
  text : List Char
  deriving DecidableEq, Repr

/-- A maximal stretch of cells that satisfy a test, with the offset of the first. -/
abbrev Stretch := Nat × Bytes

/-- The maximal stretches of cells that satisfy `keep`; the first cell has this offset. -/
def stretches (keep : Cell → Bool) : Nat → List Cell → List Stretch
  | _, [] => []
  | offset, cell :: rest =>
    let later := stretches keep (offset + 1) rest
    if keep cell then
      match later with
      | (next, bytes) :: more =>
        if next = offset + 1 then (offset, cell.1 :: bytes) :: more
        else (offset, [cell.1]) :: later
      | [] => [(offset, [cell.1])]
    else later

/-- The stretches that are whole characters. -/
def runsOf (region : Region) (offset : Nat) (cells : List Cell) : List Run :=
  (stretches (inRun region) offset cells).filterMap fun (start, bytes) =>
    (Utf8.decode? bytes).map fun text => ⟨start, text⟩

/-- A text with its bytes classified. -/
structure Scanned where
  /-- The bytes with their kinds. -/
  cells : List Cell
  deriving Repr

/-- The classification of a text. -/
def scan (text : List Char) : Scanned := ⟨cells (Utf8.encode text)⟩

namespace Scanned

/-- The runs of a region between two offsets. -/
def runs (source : Scanned) (region : Region) (start stop : Nat) : List Run :=
  runsOf region start ((source.cells.take stop).drop start)

/-- The lines of cells, each with the offset of its first cell. -/
def linesFrom (offset : Nat) : List (List Cell) → List (Nat × List Cell)
  | [] => []
  | line :: rest => (offset, line) :: linesFrom (offset + line.length + 1) rest

/-- Cut a list of cells at its newlines. -/
def splitLines : List Cell → List (List Cell)
  | [] => [[]]
  | cell :: rest =>
    if cell.1 = newline then [] :: splitLines rest
    else match splitLines rest with
      | [] => [[cell]]
      | line :: lines => (cell :: line) :: lines

/-- The runs of a region line by line. -/
def lineRuns (source : Scanned) (region : Region) : List (List Run) :=
  (linesFrom 0 (splitLines source.cells)).map fun (offset, line) => runsOf region offset line

end Scanned

end QualityGate.Source
