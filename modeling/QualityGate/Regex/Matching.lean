import QualityGate.Regex.Parser
import QualityGate.Regex.Search
import QualityGate.Text.Utf8

/-!
# Matching texts

A `Regex` is a pattern together with its program.  It can be asked whether it matches, for the
first match, and for all matches that do not overlap.

After a match the search goes on at its end.  An empty match right at the end of the previous match
does not count; the search then goes on one character later.
-/

namespace QualityGate

open QualityGate.Regex

/-- A compiled pattern. -/
structure Regex where
  /-- The pattern as it was written. -/
  source : String
  program : Program
  /-- The groups with a name. -/
  names : List (String × Nat)

/-- The characters from one position to another. -/
structure Regex.Span where
  start : Nat
  stop : Nat
  deriving DecidableEq, Repr

/-- A match: the text that was searched, and the span of every group that took part. -/
structure Regex.Match where
  text : List Char
  spans : List (Option Span)
  deriving DecidableEq, Repr

namespace Regex

/-- Why a pattern does not compile. -/
inductive Error where
  /-- The pattern is not an expression, or it is nested too deeply. -/
  | malformed
  /-- The compiled expression would be too large. -/
  | tooLarge
  deriving DecidableEq, Repr

/-- The error as text. -/
def Error.message : Error → String
  | .malformed => "regex parse error: not a regular expression"
  | .tooLarge => s!"Compiled regex exceeds size limit of {Expr.sizeLimit} bytes."

/-- Compile a pattern.  It has to be an expression that is not nested too deeply, and the size of
the compiled expression, which is only estimated (`Expr.cost`), has to be within the limit. -/
def compile (ignoreCase : Bool) (pattern : String) : Except Error Regex :=
  match parse? { ignoreCase := ignoreCase } pattern.toList with
  | none => .error .malformed
  | some (e, names) =>
    if Expr.sizeLimit < e.cost then .error .tooLarge
    else .ok { source := pattern, program := e.program, names := names }

/-- The number of groups, the whole match included. -/
def groups (regex : Regex) : Nat := regex.program.groups

/-- The spans that a thread remembers. -/
def spansOf : List (Option Nat) → List (Option Span)
  | start :: stop :: rest =>
    (do some ⟨← start, ← stop⟩ : Option Span) :: spansOf rest
  | _ => []

namespace Match

/-- The span of a group that took part in the match. -/
def span? (m : Match) (group : Nat) : Option Span := (m.spans[group]?).join

/-- The span of the whole match. -/
def whole (m : Match) : Span := (m.span? 0).getD ⟨0, 0⟩

/-- The text of a span. -/
def slice (m : Match) (span : Span) : List Char :=
  (m.text.take span.stop).drop span.start

/-- The text of a group that took part in the match. -/
def group? (m : Match) (group : Nat) : Option (List Char) := (m.span? group).map m.slice

/-- The text that was matched. -/
def matched (m : Match) : List Char := m.slice m.whole

/-- The number of bytes of the text before a position. -/
def byteOffset (m : Match) (position : Nat) : Nat :=
  (Text.Utf8.encode (m.text.take position)).length

end Match

/-- The first match at or after a place of a text. -/
def matchFrom? (regex : Regex) (text : List Char) (place : Place) : Option Match :=
  (regex.program.search place).map fun slots => ⟨text, spansOf slots.toList⟩

/-- The first match. -/
def find? (regex : Regex) (text : List Char) : Option Match :=
  regex.matchFrom? text (.start text)

/-- Whether there is a match. -/
def isMatch (regex : Regex) (text : List Char) : Bool := (regex.find? text).isSome

/-- The matches that `search` finds from a place on; `lastStop` is the end of the previous match.
Every round starts later than the one before, so the length of the text bounds their number. -/
def matchesFrom (search : Place → Option Match) : Nat → Place → Option Nat → List Match
  | 0, _, _ => []
  | fuel + 1, place, lastStop =>
    let found := do
      let m ← search place
      if m.whole.start = m.whole.stop ∧ some m.whole.stop = lastStop then search (← place.next?)
      else some m
    match found with
    | none => []
    | some m =>
      m :: matchesFrom search fuel
        (place.advance (m.whole.stop - place.position)) (some m.whole.stop)

/-- All matches of a search that do not overlap, from left to right. -/
def allMatches (search : Place → Option Match) (text : List Char) : List Match :=
  matchesFrom search (text.length + 2) (.start text) none

/-- All matches that do not overlap, from left to right. -/
def findAll (regex : Regex) (text : List Char) : List Match :=
  allMatches (regex.matchFrom? text) text

end Regex

end QualityGate
