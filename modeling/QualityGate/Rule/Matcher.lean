import QualityGate.Regex.Replacement
import QualityGate.Text.Blank

/-!
# What a rule looks for

A matcher is a list of terms or a regular expression.  Terms are searched for directly: of all
occurrences the leftmost counts, and at one place the term that is listed first.  With
`wholeWord` an occurrence counts only when there is a word boundary at both of its ends.
-/

namespace QualityGate

open QualityGate.Regex (Place Match Span)

/-- What a rule looks for. -/
inductive Matcher where
  | terms (wholeWord : Bool) (list : List (List Char))
  | regex (compiled : Regex)

namespace Matcher

/-- The terms of a list as they are searched for: without blanks around them, and none empty. -/
def usableTerms (terms : List String) : List (List Char) :=
  (terms.map fun term => Text.trim term.toList).filter fun term => ! term.isEmpty

/-- The regular expression that finds terms. -/
def termsPattern (wholeWord : Bool) (terms : List (List Char)) : String :=
  let alternatives := "|".intercalate (terms.map fun term => String.ofList (Regex.escape term))
  if wholeWord then "\\b(?:" ++ alternatives ++ ")\\b" else "(?:" ++ alternatives ++ ")"

/-- The matcher as a regular expression. -/
def source : Matcher → String
  | .terms wholeWord list => termsPattern wholeWord list
  | .regex compiled => compiled.source

/-- Whether there is a word boundary at a place. -/
def isBoundary (place : Place) : Bool :=
  Regex.Look.wordBoundary.holds Unicode.wordChars place.before place.rest.head?

/-- The end of the first listed term that occurs at a place. -/
def termEnd? (wholeWord : Bool) (terms : List (List Char)) (place : Place) : Option Nat :=
  terms.findSome? fun term =>
    match Text.stripPrefix? term place.rest with
    | none => none
    | some _ =>
      let stop := place.advance term.length
      if ! wholeWord || (isBoundary place && isBoundary stop) then some stop.position else none

/-- The first occurrence of a term at a place or at one of the next places. -/
def searchTerms (wholeWord : Bool) (terms : List (List Char)) (text : List Char) :
    Nat → Place → Option Match
  | 0, _ => none
  | fuel + 1, place =>
    match termEnd? wholeWord terms place with
    | some stop => some ⟨text, [some ⟨place.position, stop⟩]⟩
    | none => place.next?.bind (searchTerms wholeWord terms text fuel)

/-- The first match at or after a place of a text. -/
def search (matcher : Matcher) (text : List Char) (place : Place) : Option Match :=
  match matcher with
  | .terms wholeWord list => searchTerms wholeWord list text (place.rest.length + 1) place
  | .regex compiled => compiled.matchFrom? text place

/-- The first match in a text. -/
def find? (matcher : Matcher) (text : List Char) : Option Match :=
  matcher.search text (.start text)

/-- All matches in a text that do not overlap, from left to right. -/
def findAll (matcher : Matcher) (text : List Char) : List Match :=
  Regex.allMatches (matcher.search text) text

/-- The groups with a name. -/
def names : Matcher → List (String × Nat)
  | .terms _ _ => []
  | .regex compiled => compiled.names

/-- What a match is replaced with. -/
def replacement (matcher : Matcher) (template : String) (m : Match) : List Char :=
  m.expandAll matcher.names template

end Matcher

end QualityGate
