import QualityGate.Source.Region

/-!
# Masked sources

A masked source shows a text twice, once for each region, and either time everything outside the
region is blanked.  Both views have the layout of the text, so a place in one is the same place in
the other and in the text.

* Blanking works on bytes.  They are read as a text once more, and if they were none, U+FFFD would
  stand for every ill-formed piece.
* Runs are cut out of a view in one pass, which opens a span at the first byte of a run and closes
  it at the first byte behind it.  The last span may be open at the end of the range.
* Lines are those of the view.  Their offsets are added up from their lengths.
-/

namespace QualityGate.Source

open QualityGate.Text

/-- The view of a region as a text. -/
def shown (region : Region) (bytes : Bytes) : List Char :=
  (Utf8.decode? (view region bytes)).getD (Utf8.decodeLossy (view region bytes))

/-- A text as seen through both regions, with the kinds of its bytes. -/
structure Masked where
  code : List Char
  comments : List Char
  kinds : List Kind
  deriving DecidableEq, Repr

/-- Split a text into its views. -/
def mask (text : List Char) : Masked where
  code := shown .code (Utf8.encode text)
  comments := shown .comments (Utf8.encode text)
  kinds := kinds (Utf8.encode text)

/-- The view of the code alone. -/
def codeOnly (text : List Char) : List Char := shown .code (Utf8.encode text)

namespace Masked

/-- The view of a region. -/
def text (source : Masked) : Region → List Char
  | .code => source.code
  | .comments => source.comments

/-- The spans of places that are inside, when one of them may have been opened before this place. -/
def spansFrom (opened : Option Nat) (place : Nat) : List Bool → List (Nat × Nat)
  | [] =>
    match opened with
    | some start => [(start, place)]
    | none => []
  | inside :: rest =>
    match inside, opened with
    | true, none => spansFrom (some place) (place + 1) rest
    | false, some start => (start, place) :: spansFrom none (place + 1) rest
    | _, opened => spansFrom opened (place + 1) rest

/-- The bytes of a view with their kinds. -/
def cells (source : Masked) (region : Region) : List Cell :=
  (Utf8.encode (source.text region)).zip source.kinds

/-- The runs of a region between two offsets.  A span that begins or ends inside a character is
left out. -/
def runs (source : Masked) (region : Region) (start stop : Nat) : List Run :=
  let inside := (((source.cells region).take stop).drop start).map (inRun region)
  (spansFrom none start inside).filterMap fun (first, last) =>
    ((Utf8.slice? (Utf8.encode (source.text region)) first last).bind Utf8.decode?).map
      (Run.mk first)

/-- The runs of a region on some lines of its view, the first of which begins at an offset. -/
def lineRunsFrom (source : Masked) (region : Region) (offset : Nat) :
    List Bytes → List (List Run)
  | [] => []
  | line :: lines =>
    source.runs region offset (offset + line.length) ::
      source.lineRunsFrom region (offset + line.length + 1) lines

/-- The runs of a region line by line. -/
def lineRuns (source : Masked) (region : Region) : List (List Run) :=
  source.lineRunsFrom region 0 (splitOn newline (Utf8.encode (source.text region)))

end Masked

end QualityGate.Source
