import QualityGate.Manifest.Reason
import QualityGate.Text.Lines

/-!
# Context artifacts

A context artifact is a generated document about a unit.  It is sound when every required section
occurs at most once, and when it carries at most one *stamp*, a comment line that names the digest
of the unit it was generated from.

Headings inside fenced code blocks are no headings.  A fence opens with a line that starts with
three or more backticks or tildes, and closes with a line of at least as many of the same character
and nothing else.
-/

namespace QualityGate.Artifact

open QualityGate.Text

/-- The start of a stamp. -/
def stampStart : List Char := "<!-- qualities:manifest ".toList

/-- The end of a stamp. -/
def stampEnd : List Char := " -->".toList

/-- The digest on a line that is a stamp. -/
def stampDigest? (line : List Char) : Option (List Char) :=
  (stripPrefix? stampStart (trim line)).bind fun rest => (stripSuffix? stampEnd rest).map trim

/-- A stamp for a digest. -/
def stampLine (digest : List Char) : List Char := stampStart ++ digest ++ stampEnd

/-- The digests of the stamps of a text. -/
def stamps (text : List Char) : List (List Char) := (lines text).filterMap stampDigest?

/-- The character of an open fence and the length of its first line. -/
abbrev Fence := Char × Nat

/-- The run of backticks or tildes that a line starts with, and the rest of the line. -/
def fenceRun? (line : List Char) : Option (Char × Nat × List Char) :=
  match trimStart line with
  | [] => none
  | c :: rest =>
    if c = '\x60' ∨ c = '~' then
      some (c, 1 + (rest.takeWhile (· == c)).length, rest.dropWhile (· == c))
    else none

/-- The title of a heading: one to six number signs, a blank, and the title. -/
def headingTitle? (line : List Char) : Option (List Char) :=
  let text := trimStart line
  let marks := (text.takeWhile (· == '#')).length
  if marks = 0 ∨ 6 < marks then none
  else match text.drop marks with
    | c :: rest =>
      if c = ' ' ∨ c = '\t' then some (trim (dropWhileEnd (· == '#') (trim (c :: rest)))) else none
    | [] => none

/-- The fence after a line. -/
def fenceAfter (fence : Option Fence) (line : List Char) : Option Fence :=
  match fence, fenceRun? line with
  | none, some (c, length, _) => if 3 ≤ length then some (c, length) else none
  | some (c, length), some (d, run, rest) =>
    if d = c ∧ length ≤ run ∧ isAllBlank rest then none else some (c, length)
  | fence, none => fence

/-- The title on a line; a line inside a fence, or one that opens or closes it, has none. -/
def titleOn? (fence : Option Fence) (line : List Char) : Option (List Char) :=
  if fence.isSome ∨ (fenceAfter none line).isSome then none else headingTitle? line

/-- The titles of some lines. -/
def titlesFrom : Option Fence → List (List Char) → List (List Char)
  | _, [] => []
  | fence, line :: rest =>
    (titleOn? fence line).toList ++ titlesFrom (fenceAfter fence line) rest

/-- The titles of the headings of a text. -/
def titles (text : List Char) : List (List Char) := titlesFrom none (lines text)

/-- Whether two texts are equal up to the case of ASCII letters. -/
def sameTitle (a b : List Char) : Bool := a.map Char.toLower == b.map Char.toLower

/-- The sections that occur more than once. -/
def duplicateSections (text : List Char) (sections : List String) : List DriftReason :=
  sections.filterMap fun title =>
    let count := ((titles text).filter (sameTitle title.toList)).length
    if 1 < count then some (.duplicateSection title count) else none

/-- What is wrong with the stamps; a single one has to carry the live digest, if that is known. -/
def stampReasons (stamps : List (List Char)) (live : Option String) : List DriftReason :=
  match stamps with
  | [] => []
  | [recorded] =>
    match live with
    | some live =>
      if recorded = live.toList then [] else [.staleArtifact (String.ofList recorded) live]
    | none => []
  | stamps => [.duplicateStamp stamps.length]

/-- What is wrong with an artifact. -/
def check (text : String) (sections : List String) (live : Option String) : List DriftReason :=
  duplicateSections text.toList sections ++ stampReasons (stamps text.toList) live

/-- The lines of a text that are kept when it is stamped: no stamps, and no blank lines at the
end. -/
def keptLines (text : List Char) : List (List Char) :=
  (((lines text).filter fun line => (stampDigest? line).isNone).reverse.dropWhile isAllBlank).reverse

/-- The text with a single stamp, which comes last. -/
def stampChars (text digest : List Char) : List Char :=
  let kept := joinWith ['\n'] (keptLines text)
  (if kept.isEmpty then [] else kept ++ ['\n', '\n']) ++ stampLine digest ++ ['\n']

/-- The artifact with a single stamp for a digest. -/
def stamp (text digest : String) : String :=
  String.ofList (stampChars text.toList digest.toList)

end QualityGate.Artifact
