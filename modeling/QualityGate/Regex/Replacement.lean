import QualityGate.Regex.Matching

/-!
# Replacement texts

A replacement text refers to groups of the match: `$1` and `$name` take the longest run of letters,
digits and underscores as the name, and braces in their place allow any name.  A name that is a
number is the number of a group.  A group that does not exist or took no part stands for the empty
text, `$$` for a dollar sign, and a dollar sign that refers to nothing for itself.
-/

namespace QualityGate.Regex

/-- A character of a name without braces. -/
def isReferenceChar (c : Char) : Bool := c.isAlphanum || c == '_'

/-- The number that a name denotes: digits, maybe with a plus sign, below the machine's limit. -/
def referenceNumber? (name : List Char) : Option Nat :=
  let digits := match name with
    | '+' :: digits => digits
    | digits => digits
  if digits.isEmpty || ! digits.all Char.isDigit then none
  else
    let value := digits.foldl (fun acc d => acc * 10 + (d.toNat - 48)) 0
    if value < UInt64.size then some value else none

/-- The text of the group that a name denotes. -/
def Match.reference (m : Match) (names : List (String × Nat)) (name : List Char) : List Char :=
  let index := (referenceNumber? name).or (names.lookup (String.ofList name))
  ((index.bind m.group?).getD [])

/-- The replacement text with its references resolved. -/
def Match.expand (m : Match) (names : List (String × Nat)) : Nat → List Char → List Char
  | 0, _ => []
  | _, [] => []
  | fuel + 1, '$' :: '$' :: rest => '$' :: m.expand names fuel rest
  | fuel + 1, '$' :: '{' :: rest =>
    match Text.cutAt? ['}'] rest with
    | some (name, rest) => m.reference names name ++ m.expand names fuel rest
    | none => '$' :: m.expand names fuel ('{' :: rest)
  | fuel + 1, '$' :: rest =>
    let name := rest.takeWhile isReferenceChar
    if name.isEmpty then '$' :: m.expand names fuel rest
    else m.reference names name ++ m.expand names fuel (rest.drop name.length)
  | fuel + 1, c :: rest => c :: m.expand names fuel rest

/-- What a match is replaced with. -/
def Match.expandAll (m : Match) (names : List (String × Nat)) (template : String) : List Char :=
  m.expand names (template.toList.length + 1) template.toList

end QualityGate.Regex
