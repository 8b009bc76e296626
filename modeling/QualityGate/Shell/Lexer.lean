import QualityGate.Shell.Syntax
import QualityGate.Text.Lines

/-!
# Tokens of shell scripts

Blanks separate words, and so do operators.  Within quotes blanks are characters like any other;
between double quotes parameters still stand for their values.

A redirection may bring its text along: the lines that follow, up to one that consists of a given
marker.  Such a text becomes the word after the operator.
-/

namespace QualityGate.Shell

/-- A character of the name of a variable. -/
def isNameChar (c : Char) : Bool := c.isAlphanum || c == '_'

/-- Whether a text is the name of a variable. -/
def isName : List Char → Bool
  | [] => false
  | c :: rest => ! c.isDigit && isNameChar c && rest.all isNameChar

/-- A parameter whose name is a single character. -/
def isSpecialName (c : Char) : Bool := c.isDigit || "@*#?$!-".contains c

/-- A character that ends a word. -/
def endsWord (c : Char) : Bool := " \t\n;&|<>()".contains c

/-- The text up to a closing quote, escapes included, and the rest after the quote. -/
def untilQuote (quote : Char) : List Char → Option (List Char × List Char)
  | [] => none
  | '\\' :: c :: rest =>
    if quote = '\'' then
      if c = quote then some (['\\'], rest)
      else (untilQuote quote rest).map fun (text, rest) => ('\\' :: c :: text, rest)
    else (untilQuote quote rest).map fun (text, rest) => ('\\' :: c :: text, rest)
  | c :: rest =>
    if c = quote then some ([], rest)
    else (untilQuote quote rest).map fun (text, rest) => (c :: text, rest)

/-- The text up to the bracket that closes `depth` open ones, and the rest after it. -/
def untilClosed (opening closing : Char) : Nat → Nat → List Char → Option (List Char × List Char)
  | 0, _, _ => none
  | _, _, [] => none
  | fuel + 1, depth, c :: rest =>
    let go := fun (depth : Nat) (front rest : List Char) =>
      (untilClosed opening closing fuel depth rest).map fun (text, rest) => (front ++ text, rest)
    if c = closing then if depth = 0 then some ([], rest) else go (depth - 1) [c] rest
    else if c = opening then go (depth + 1) [c] rest
    else if c = '\'' ∨ c = '"' then do
      let (text, rest) ← untilQuote c rest
      go depth (c :: text ++ [c]) rest
    else match c, rest with
      | '\\', d :: rest => go depth [c, d] rest
      | _, _ => go depth [c] rest

/-- A parameter in braces. -/
def braced? (quoted : Bool) (body : List Char) : Option Piece :=
  let (name, rest) := match body with
    | c :: rest =>
      if isSpecialName c && ! (c = '#' && ! rest.isEmpty) then ([c], rest)
      else (body.takeWhile isNameChar, body.dropWhile isNameChar)
    | [] => ([], [])
  match body, rest with
  | '#' :: name@(_ :: _), _ => some (.adjusted quoted (String.ofList name) "length" [])
  | _, [] => if name.isEmpty then none else some (.parameter quoted (String.ofList name))
  | _, ':' :: c :: operand =>
    if "-=+?".contains c then
      some (.adjusted quoted (String.ofList name) (String.ofList [':', c]) operand)
    else none
  | _, '#' :: '#' :: operand => some (.adjusted quoted (String.ofList name) "##" operand)
  | _, '%' :: '%' :: operand => some (.adjusted quoted (String.ofList name) "%%" operand)
  | _, c :: operand =>
    if "-=+?#%".contains c then
      some (.adjusted quoted (String.ofList name) (String.ofList [c]) operand)
    else none

/-- What is there, or a fault. -/
def orFault (fault : Fault) : Option α → Except Fault α
  | some value => .ok value
  | none => .error fault

/-- What stands after a dollar sign, and the rest; a dollar sign alone stands for itself. -/
def dollar (quoted : Bool) (text : List Char) : Except Fault (Piece × List Char) :=
  match text with
  | '(' :: rest => do
    let (body, rest) ← orFault (.unexpected "end of file" (some "\")\""))
      (untilClosed '(' ')' (rest.length + 1) 0 rest)
    match body, body.getLast? with
    | '(' :: inner, some ')' => return (.arithmetic quoted inner.dropLast, rest)
    | _, _ => return (.output quoted body, rest)
  | '\x7b' :: rest => do
    let (body, rest) ← orFault .missingBrace
      (untilClosed '\x7b' '\x7d' (rest.length + 1) 0 rest)
    return (← orFault .badSubstitution (braced? quoted body), rest)
  | c :: rest =>
    if isSpecialName c then .ok (.parameter quoted (String.ofList [c]), rest)
    else
      let name := text.takeWhile isNameChar
      if name.isEmpty then .ok (.text quoted ['$'], text)
      else .ok (.parameter quoted (String.ofList name), text.dropWhile isNameChar)
  | [] => .ok (.text quoted ['$'], [])

/-- A script between backquotes without its escapes. -/
def unescapeScript : List Char → List Char
  | '\\' :: c :: rest =>
    if c = '\x60' ∨ c = '\\' ∨ c = '$' then c :: unescapeScript rest
    else '\\' :: c :: unescapeScript rest
  | c :: rest => c :: unescapeScript rest
  | [] => []

/-- A word with a piece in front. -/
def consPiece : Piece → Word → Word
  | .text q s, .text r t :: rest =>
    if q = r then .text q (s ++ t) :: rest else .text q s :: .text r t :: rest
  | piece, word => piece :: word

/-- The characters that a backslash can stand before between double quotes. -/
def quotedEscapes : List Char := ['$', '\x60', '"', '\\']

/-- The characters that a backslash can stand before in a text within a script. -/
def hereEscapes : List Char := ['$', '\x60', '\\']

/-- The pieces of a text in which only parameters and some escapes have a meaning. -/
def quotedPieces (escapes : List Char) : Nat → List Char → Except Fault Word
  | 0, _ => .error .unterminatedQuote
  | _, [] => .ok []
  | fuel + 1, '\\' :: c :: rest =>
    if c = '\n' then quotedPieces escapes fuel rest
    else
      let text := if escapes.contains c then [c] else ['\\', c]
      (quotedPieces escapes fuel rest).map (consPiece (.text true text))
  | fuel + 1, '$' :: rest => do
    let (piece, rest) ← dollar true rest
    (quotedPieces escapes fuel rest).map (consPiece piece)
  | fuel + 1, '\x60' :: rest => do
    let (script, rest) ← orFault .unterminatedBackquote (untilQuote '\x60' rest)
    (quotedPieces escapes fuel rest).map (consPiece (.output true (unescapeScript script)))
  | fuel + 1, c :: rest => (quotedPieces escapes fuel rest).map (consPiece (.text true [c]))

/-- A word at the start of a text, up to a character that ends it, and the rest. -/
def wordAt (ends : Char → Bool) : Nat → List Char → Except Fault (Word × List Char)
  | 0, _ => .error .unterminatedQuote
  | _, [] => .ok ([], [])
  | fuel + 1, c :: rest =>
    let go := fun (front : Word) (rest : List Char) =>
      (wordAt ends fuel rest).map fun (word, rest) => (front.foldr consPiece word, rest)
    if ends c then .ok ([], c :: rest)
    else if c = '\'' then do
      let (text, rest) ← orFault .unterminatedQuote (untilQuote '\'' rest)
      go [.text true text] rest
    else if c = '"' then do
      let (body, rest) ← orFault .unterminatedQuote (untilQuote '"' rest)
      go (.text true [] :: (← quotedPieces quotedEscapes (body.length + 1) body)) rest
    else if c = '\x60' then do
      let (script, rest) ← orFault .unterminatedBackquote (untilQuote '\x60' rest)
      go [.output false (unescapeScript script)] rest
    else if c = '$' then do
      let (piece, rest) ← dollar false rest
      go [piece] rest
    else match c, rest with
      | '\\', '\n' :: rest => go [] rest
      | '\\', d :: rest => go [.text true [d]] rest
      | _, _ => go [.text false [c]] rest

/-- The operators that do not redirect, the longest first. -/
def operators : List String := ["&&", "||", ";;", ";", "&", "|", "(", ")", "\n"]

/-- The operators that redirect, the longest first. -/
def redirectOperators : List String := ["<<-", "<<", ">>", ">&", ">|", "<&", ">", "<"]

/-- The first of some texts that another one begins with, and the rest. -/
def leading? (fronts : List String) (text : List Char) : Option (String × List Char) :=
  fronts.findSome? fun front =>
    (Text.stripPrefix? front.toList text).map fun rest => (front, rest)

/-- The text of the pieces of a word, and whether any of it is quoted. -/
def Word.literal (word : Word) : List Char × Bool :=
  (word.flatMap fun piece => match piece with
      | .text _ text => text
      | _ => [],
    word.any fun piece => match piece with
      | .text quoted _ => quoted
      | _ => false)

/-- The lines up to the one that ends a text within a script, and the lines after it. -/
def hereLines (withoutTabs : Bool) (ending : List Char) :
    List (List Char) → List (List Char) × List (List Char)
  | [] => ([], [])
  | line :: rest =>
    let line := if withoutTabs then line.dropWhile (· = '\t') else line
    if line = ending then ([], rest)
    else
      let (lines, rest) := hereLines withoutTabs ending rest
      (line :: lines, rest)

/-- A text within a script as a word, and the script without it. -/
def hereDocument (withoutTabs : Bool) (text : List Char) : Except Fault (Word × List Char) := do
  let text := text.dropWhile fun c => c = ' ' || c = '\t'
  let (marker, rest) ← wordAt endsWord (text.length + 1) text
  let (ending, isQuoted) := marker.literal
  let pieces := Text.splitOn '\n' (rest.dropWhile (· ≠ '\n')).tail
  let pieces := if pieces.getLast? == some [] then pieces.dropLast else pieces
  let (lines, others) := hereLines withoutTabs ending pieces
  let body := lines.flatMap (· ++ ['\n'])
  let value ← if isQuoted then .ok [.text true body]
    else quotedPieces hereEscapes (body.length + 1) body
  return (value, rest.takeWhile (· ≠ '\n') ++ '\n' :: Text.joinWith ['\n'] others)

/-- The tokens of a script from a line on. -/
def tokens : Nat → Nat → List Char → List Token
  | 0, line, _ | _, line, [] => [⟨line, .finish⟩]
  | fuel + 1, line, c :: rest =>
    let text := c :: rest
    if c = ' ' ∨ c = '\t' then tokens fuel line rest
    else if c = '#' then tokens fuel line (rest.dropWhile (· ≠ '\n'))
    else if c = '\n' then ⟨line, .operator "\n"⟩ :: tokens fuel (line + 1) rest
    else if c = '\\' ∧ rest.head? = some '\n' then tokens fuel (line + 1) rest.tail
    else
      let digits := text.takeWhile Char.isDigit
      let stream := (String.ofList digits).toNat?
      match leading? redirectOperators (text.drop digits.length), leading? operators text with
      | some (operator, rest), _ =>
        if operator = "<<" ∨ operator = "<<-" then
          match hereDocument (operator = "<<-") rest with
          | .ok (body, rest) =>
            ⟨line, .redirect stream "<<"⟩ :: ⟨line, .word body⟩ :: tokens fuel line rest
          | .error fault => [⟨line, .faulty fault⟩]
        else ⟨line, .redirect stream operator⟩ :: tokens fuel line rest
      | none, some (operator, rest) => ⟨line, .operator operator⟩ :: tokens fuel line rest
      | none, none =>
        match wordAt endsWord (text.length + 1) text with
        | .ok (found, rest) =>
          let breaks := (text.take (text.length - rest.length)).count '\n'
          ⟨line, .word found⟩ :: tokens fuel (line + breaks) rest
        | .error fault => [⟨line, .faulty fault⟩]

/-- The tokens of a script.  Where a quote or a bracket is not closed the last one is a fault. -/
def tokensOf (text : List Char) : List Token := tokens (text.length + 1) 1 text

end QualityGate.Shell
