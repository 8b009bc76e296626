import QualityGate.Json.Basic
import QualityGate.Text.Hexadecimal

/-!
# Writing JSON

Two layouts: `compact` without any blanks, and `pretty` with one item a line, two spaces a level,
and empty lists and objects written without a break.  Strings escape the quote, the backslash and
the control characters below U+0020, and nothing else.
-/

namespace QualityGate.Json

/-- A character inside a string literal. -/
def escapeChar (c : Char) : List Char :=
  if c = '"' then ['\\', '"']
  else if c = '\\' then ['\\', '\\']
  else if c.toNat = 0x08 then ['\\', 'b']
  else if c = '\t' then ['\\', 't']
  else if c = '\n' then ['\\', 'n']
  else if c.toNat = 0x0C then ['\\', 'f']
  else if c = '\r' then ['\\', 'r']
  else if c.toNat < 0x20 then
    ['\\', 'u', '0', '0', Text.hexDigit (c.toNat / 16), Text.hexDigit (c.toNat % 16)]
  else [c]

/-- A string literal. -/
def quote (text : List Char) : List Char :=
  '"' :: (text.flatMap escapeChar ++ ['"'])

/-- An integer literal. -/
def intLiteral (value : Int) : List Char := (toString value).toList

/-- A line break and the blanks of a level. -/
def lineBreak (level : Nat) : List Char := '\n' :: List.replicate (2 * level) ' '

/-- A value that is neither a list nor an object. -/
def scalar : Json → List Char
  | .bool true => ['t', 'r', 'u', 'e']
  | .bool false => ['f', 'a', 'l', 's', 'e']
  | .int value => intLiteral value
  | .str text => quote text.toList
  | _ => ['n', 'u', 'l', 'l']

mutual

/-- The value without any blanks. -/
def compact : Json → List Char
  | .arr items => '[' :: (compactItems items ++ [']'])
  | .obj members => '{' :: (compactMembers members ++ ['}'])
  | value => scalar value

/-- Items with commas between them. -/
def compactItems : List Json → List Char
  | [] => []
  | [item] => compact item
  | item :: items => compact item ++ ',' :: compactItems items

/-- Members with commas between them. -/
def compactMembers : List (String × Json) → List Char
  | [] => []
  | [(name, value)] => quote name.toList ++ ':' :: compact value
  | (name, value) :: members =>
    quote name.toList ++ ':' :: (compact value ++ ',' :: compactMembers members)

end

mutual

/-- The value with one item a line, at this level. -/
def pretty (level : Nat) : Json → List Char
  | .arr [] => ['[', ']']
  | .arr items => '[' :: (prettyItems (level + 1) items ++ lineBreak level ++ [']'])
  | .obj [] => ['{', '}']
  | .obj members => '{' :: (prettyMembers (level + 1) members ++ lineBreak level ++ ['}'])
  | value => scalar value

/-- Items at this level, each on a line of its own. -/
def prettyItems (level : Nat) : List Json → List Char
  | [] => []
  | [item] => lineBreak level ++ pretty level item
  | item :: items => lineBreak level ++ pretty level item ++ ',' :: prettyItems level items

/-- Members at this level, each on a line of its own. -/
def prettyMembers (level : Nat) : List (String × Json) → List Char
  | [] => []
  | [(name, value)] => lineBreak level ++ quote name.toList ++ ':' :: ' ' :: pretty level value
  | (name, value) :: members =>
    lineBreak level ++ quote name.toList ++ ':' :: ' ' :: pretty level value
      ++ ',' :: prettyMembers level members

end

/-- The compact text of a value. -/
def toCompact (value : Json) : String := String.ofList (compact value)

/-- The indented text of a value. -/
def toPretty (value : Json) : String := String.ofList (pretty 0 value)

end QualityGate.Json
