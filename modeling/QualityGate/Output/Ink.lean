import QualityGate.Json.Printer

/-!
# Coloured words

Reports for people emphasise a few words.  On a terminal a word is wrapped in the control sequences
of its ink; elsewhere it stands as it is.
-/

namespace QualityGate

/-- How a word is emphasised. -/
inductive Ink where
  | green
  | boldGreen
  | boldRed
  | yellow
  | boldYellow
  | dimmed
  deriving DecidableEq, Repr

namespace Ink

/-- The codes of an ink. -/
def codes : Ink → String
  | green => "32"
  | boldGreen => "1;32"
  | boldRed => "1;31"
  | yellow => "33"
  | boldYellow => "1;33"
  | dimmed => "2"

/-- A word in an ink. -/
def paint (ink : Ink) (color : Bool) (word : String) : String :=
  if color then s!"\x1b[{ink.codes}m{word}\x1b[0m" else word

end Ink

/-- Lines, each with its line break. -/
def unlines (lines : List String) : String := String.join (lines.map (· ++ "\n"))

/-- A value as an indented document with a line break at its end. -/
def Json.document (value : Json) : String := value.toPretty ++ "\n"

end QualityGate
