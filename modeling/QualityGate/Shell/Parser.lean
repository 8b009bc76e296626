import QualityGate.Shell.Lexer

/-!
# Grammar of shell scripts

Pipes bind tighter than `&&` and `||`, which bind alike and to the left, and these bind tighter
than `;` and `&`.  A word is only reserved where a command may begin.

A script is read line by line: what comes before a line that cannot be read is still a script.  So
every text has a script, which may end in a fault.
-/

namespace QualityGate.Shell

/-- The reserved words that end a list of commands. -/
def closers : List String := ["then", "do", "done", "fi", "else", "elif", "esac", "\x7d"]

/-- The reserved words. -/
def reservedWords : List String :=
  ["!", "\x7b", "case", "for", "if", "in", "until", "while"] ++ closers

/-- A place in a script that cannot be read. -/
structure Misreading where
  line : Nat
  fault : Fault
  deriving DecidableEq, Repr

/-- What is read from the start of some tokens, and the other tokens. -/
abbrev ParsedScript := Except Misreading (Script × List Token)

/-- A text in quotation marks. -/
def inQuotes (text : String) : String := "\"" ++ text ++ "\""

/-- What a token is called where it should not be. -/
def Symbol.description : Symbol → String
  | .word pieces =>
    match pieces.bare? with
    | some text => if reservedWords.contains text then inQuotes text else "word"
    | none => "word"
  | .operator "\n" => "newline"
  | .operator text => inQuotes text
  | .redirect _ _ => "redirection"
  | .faulty _ | .finish => "end of file"

/-- The first token should not be there. -/
def misread (expected : Option String) : List Token → Except Misreading α
  | ⟨line, .faulty fault⟩ :: _ => .error ⟨line, fault⟩
  | ⟨line, symbol⟩ :: _ => .error ⟨line, .unexpected symbol.description expected⟩
  | [] => .error ⟨1, .unexpected "end of file" expected⟩

/-- The first token. -/
def symbolOf (tokens : List Token) : Symbol :=
  match tokens with
  | token :: _ => token.symbol
  | [] => .finish

/-- The text of a first token that is an operator. -/
def operator? (tokens : List Token) : Option String :=
  match symbolOf tokens with
  | .operator text => some text
  | _ => none

/-- The text of a first token that may be a reserved word. -/
def reserved? (tokens : List Token) : Option String :=
  match symbolOf tokens with
  | .word word => word.bare?
  | _ => none

/-- The tokens after a reserved word. -/
def expect (text : String) (tokens : List Token) : Except Misreading (List Token) :=
  if reserved? tokens == some text then .ok tokens.tail else misread (some (inQuotes text)) tokens

/-- The tokens after an operator. -/
def expectOperator (text : String) (tokens : List Token) : Except Misreading (List Token) :=
  if operator? tokens == some text then .ok tokens.tail else misread (some (inQuotes text)) tokens

/-- The tokens without the line breaks at the start. -/
def skipBreaks : List Token → List Token
  | ⟨_, .operator "\n"⟩ :: rest => skipBreaks rest
  | tokens => tokens

/-- How an operator redirects, and the stream it does when none is named. -/
def redirectKind : String → RedirectKind × Nat
  | ">>" => (.append, 1)
  | ">&" => (.duplicate, 1)
  | "<&" => (.duplicate, 0)
  | "<<" => (.here, 0)
  | "<" => (.read, 0)
  | _ => (.write, 1)

/-- A redirection by an operator. -/
def redirectBy (stream : Option Nat) (operator : String) (target : Word) : Redirect :=
  let (kind, default) := redirectKind operator
  ⟨stream.getD default, kind, target⟩

/-- The redirections at the start of some tokens. -/
def redirects : List Token → Except Misreading (List Redirect × List Token)
  | ⟨_, .redirect stream operator⟩ :: ⟨_, .word target⟩ :: rest => do
    let (more, rest) ← redirects rest
    return (redirectBy stream operator target :: more, rest)
  | ⟨_, .redirect _ _⟩ :: rest => misread none rest
  | tokens => .ok ([], tokens)

/-- An assignment. -/
def assignment? : Word → Option (String × Word)
  | .text false text :: rest =>
    let name := text.takeWhile (· ≠ '=')
    match text.dropWhile (· ≠ '=') with
    | '=' :: value =>
      if isName name then
        some (String.ofList name, if value.isEmpty then rest else .text false value :: rest)
      else none
    | _ => none
  | _ => none

/-- The words and redirections of a simple command. -/
def simpleParts : List Token → Except Misreading ((List Word × List Redirect) × List Token)
  | ⟨_, .redirect stream operator⟩ :: ⟨_, .word target⟩ :: rest => do
    let ((words, redirects), rest) ← simpleParts rest
    return ((words, redirectBy stream operator target :: redirects), rest)
  | ⟨_, .redirect _ _⟩ :: rest => misread none rest
  | ⟨_, .word word⟩ :: rest => do
    let ((words, redirects), rest) ← simpleParts rest
    return ((word :: words, redirects), rest)
  | tokens => .ok (([], []), tokens)

/-- A simple command. -/
def simple (tokens : List Token) : ParsedScript := do
  let ((words, redirects), rest) ← simpleParts tokens
  let assignments := (words.map assignment?).takeWhile Option.isSome |>.filterMap id
  if words.isEmpty && redirects.isEmpty then misread none tokens
  else
    let line := (tokens.head?.map Token.line).getD 1
    return (.simple line assignments (words.drop assignments.length) redirects, rest)

/-- The words up to another token. -/
def wordsUntilEnd : List Token → List Word × List Token
  | ⟨_, .word word⟩ :: rest =>
    let (words, rest) := wordsUntilEnd rest
    (word :: words, rest)
  | tokens => ([], tokens)

/-- The patterns of an arm up to its closing bracket. -/
def patterns : List Token → Except Misreading (List Word × List Token)
  | ⟨_, .word word⟩ :: ⟨_, .operator "|"⟩ :: rest => do
    let (words, rest) ← patterns rest
    return (word :: words, rest)
  | ⟨_, .word word⟩ :: rest => do return ([word], ← expectOperator ")" rest)
  | tokens => misread (some (inQuotes ")")) tokens

/-- Whether the script ends here. -/
def atFinish (tokens : List Token) : Bool := symbolOf tokens == .finish

/-- Whether a list of commands ends here. -/
def atEnd (tokens : List Token) : Bool :=
  match symbolOf tokens with
  | .finish | .operator ")" | .operator ";;" => true
  | _ => (reserved? tokens).any closers.contains

/-- How a list of commands is read, by the number of nested constructs that may still be opened. -/
structure Grammar where
  /-- A list of commands, which may be empty if `optional`. -/
  list : (optional : Bool) → List Token → ParsedScript

namespace Grammar

/-- A construct within others is a list that is not empty. -/
def body (grammar : Grammar) (tokens : List Token) : ParsedScript := grammar.list false tokens

/-- The rest of a choice after its first word. -/
def choice (grammar : Grammar) : Nat → List Token → ParsedScript
  | 0, tokens => misread none tokens
  | fuel + 1, tokens => do
    let (condition, tokens) ← grammar.body tokens
    let (positive, tokens) ← grammar.body (← expect "then" tokens)
    match reserved? tokens with
    | some "else" =>
      let (negative, tokens) ← grammar.body tokens.tail
      return (.choice condition positive negative, ← expect "fi" tokens)
    | some "elif" =>
      let (negative, tokens) ← choice grammar fuel tokens.tail
      return (.choice condition positive negative, tokens)
    | _ => return (.choice condition positive .nothing, ← expect "fi" tokens)

/-- The rest of a loop after its first word. -/
def loop (grammar : Grammar) (negated : Bool) (tokens : List Token) : ParsedScript := do
  let (condition, tokens) ← grammar.body tokens
  let (body, tokens) ← grammar.body (← expect "do" tokens)
  return (.loop negated condition body, ← expect "done" tokens)

/-- The words that a loop goes over, after its name; without any it goes over the arguments. -/
def loopWords (tokens : List Token) : Except Misreading (Option (List Word) × List Token) :=
  let here := skipBreaks tokens
  if reserved? here == some "in" then
    let (words, rest) := wordsUntilEnd here.tail
    match operator? rest with
    | some ";" | some "\n" => .ok (some words, rest.tail)
    | _ => misread none rest
  else .ok (none, if operator? tokens == some ";" then tokens.tail else tokens)

/-- The rest of a loop over words after its first word. -/
def each (grammar : Grammar) : List Token → ParsedScript
  | ⟨line, .word word⟩ :: tokens => do
    match word.bare? with
    | none => .error ⟨line, .badLoopVariable⟩
    | some name =>
      if ! isName name.toList then .error ⟨line, .badLoopVariable⟩
      else
        let (words, tokens) ← loopWords tokens
        let (body, tokens) ← grammar.body (← expect "do" (skipBreaks tokens))
        return (.each name words body, ← expect "done" tokens)
  | token :: _ => .error ⟨token.line, .badLoopVariable⟩
  | [] => .error ⟨1, .badLoopVariable⟩

/-- The arms of a case. -/
def arms (grammar : Grammar) (word : Word) : Nat → List Token → ParsedScript
  | 0, tokens => misread none tokens
  | fuel + 1, tokens =>
    let tokens := skipBreaks tokens
    if reserved? tokens == some "esac" then .ok (.nothing, tokens.tail)
    else do
      let tokens := if operator? tokens == some "(" then tokens.tail else tokens
      let (patterns, tokens) ← patterns tokens
      let (body, tokens) ← grammar.list true tokens
      let tokens := skipBreaks tokens
      if reserved? tokens == some "esac" then
        return (.arm word patterns body .nothing, tokens.tail)
      else do
        let (next, tokens) ← arms grammar word fuel (← expectOperator ";;" tokens)
        return (.arm word patterns body next, tokens)

/-- The rest of a case after its first word. -/
def cases (grammar : Grammar) : List Token → ParsedScript
  | ⟨_, .word word⟩ :: rest => do
    grammar.arms word (rest.length + 1) (← expect "in" (skipBreaks rest))
  | tokens => misread (some "word") tokens

/-- A construct that begins with a reserved word or a bracket, if there is one. -/
def compound? (grammar : Grammar) (tokens : List Token) : Option (ParsedScript) :=
  match operator? tokens, reserved? tokens with
  | some "(", _ => some do
    let (body, rest) ← grammar.body tokens.tail
    return (.subshell body, ← expectOperator ")" rest)
  | _, some "\x7b" => some do
    let (body, rest) ← grammar.body tokens.tail
    return (body, ← expect "\x7d" rest)
  | _, some "if" => some (grammar.choice (tokens.length + 1) tokens.tail)
  | _, some "while" => some (grammar.loop false tokens.tail)
  | _, some "until" => some (grammar.loop true tokens.tail)
  | _, some "for" => some (grammar.each tokens.tail)
  | _, some "case" => some (grammar.cases tokens.tail)
  | _, _ => none

/-- A command. -/
def command (grammar : Grammar) : Nat → List Token → ParsedScript
  | 0, tokens => misread none tokens
  | fuel + 1, tokens =>
    match grammar.compound? tokens, tokens with
    | some parsed, _ => do
      let (body, rest) ← parsed
      let (list, rest) ← redirects rest
      return (if list.isEmpty then body else .redirected body list, rest)
    | none, ⟨_, .word name⟩ :: ⟨_, .operator "("⟩ :: rest => do
      let rest ← expectOperator ")" rest
      let (body, rest) ← command grammar fuel (skipBreaks rest)
      return (.define ((name.bare?).getD "") body, rest)
    | none, _ =>
      if (reserved? tokens).any reservedWords.contains then misread none tokens else simple tokens

/-- Commands joined by pipes. -/
def pipeline (grammar : Grammar) : Nat → List Token → ParsedScript
  | 0, tokens => misread none tokens
  | fuel + 1, tokens => do
    let (left, rest) ← grammar.command (tokens.length + 1) tokens
    if operator? rest == some "|" then
      let (right, rest) ← pipeline grammar fuel (skipBreaks rest.tail)
      return (.pipe left right, rest)
    else return (left, rest)

/-- A pipeline, perhaps negated. -/
def term (grammar : Grammar) (tokens : List Token) : ParsedScript :=
  let fuel := tokens.length + 1
  if reserved? tokens == some "!" then
    (grammar.pipeline fuel tokens.tail).map fun (body, rest) => (.negated body, rest)
  else grammar.pipeline fuel tokens

/-- The pipelines joined to one before them by `&&` and `||`. -/
def joined (grammar : Grammar) : Nat → Script → List Token → ParsedScript
  | 0, _, tokens => misread none tokens
  | fuel + 1, left, tokens =>
    match operator? tokens with
    | some "&&" => do
      let (right, rest) ← grammar.term (skipBreaks tokens.tail)
      joined grammar fuel (.both left right) rest
    | some "||" => do
      let (right, rest) ← grammar.term (skipBreaks tokens.tail)
      joined grammar fuel (.either left right) rest
    | _ => .ok (left, tokens)

/-- Pipelines joined by `&&` and `||`. -/
def chain (grammar : Grammar) (tokens : List Token) : ParsedScript := do
  let (first, rest) ← grammar.term tokens
  grammar.joined (rest.length + 1) first rest

/-- The commands of a list. -/
def commands (grammar : Grammar) : Nat → Bool → List Token → ParsedScript
  | 0, _, tokens => misread none tokens
  | fuel + 1, optional, tokens =>
    let tokens := skipBreaks tokens
    if atFinish tokens || (optional && atEnd tokens) then .ok (.nothing, tokens)
    else do
      let (first, rest) ← grammar.chain tokens
      match operator? rest with
      | some "&" =>
        let (more, rest) ← commands grammar fuel true rest.tail
        return (.sequence (.background first) more, rest)
      | some ";" | some "\n" =>
        match ← commands grammar fuel true rest.tail with
        | (.nothing, rest) => return (first, rest)
        | (more, rest) => return (.sequence first more, rest)
      | _ => return (first, rest)

/-- The grammar with so many nested constructs. -/
def ofDepth : Nat → Grammar
  | 0 => ⟨fun _ => misread none⟩
  | depth + 1 => ⟨fun optional tokens =>
      (ofDepth depth).commands (tokens.length + 1) optional tokens⟩

/-- The commands of a line. -/
def lineCommands (grammar : Grammar) : Nat → List Token → ParsedScript
  | 0, tokens => misread none tokens
  | fuel + 1, tokens => do
    let (first, rest) ← grammar.chain tokens
    let isLast := fun (tokens : List Token) =>
      atFinish tokens || operator? tokens == some "\n"
    match operator? rest with
    | some "&" =>
      if isLast rest.tail then return (.background first, rest.tail)
      else
        let (more, rest) ← lineCommands grammar fuel rest.tail
        return (.sequence (.background first) more, rest)
    | some ";" =>
      if isLast rest.tail then return (first, rest.tail)
      else
        let (more, rest) ← lineCommands grammar fuel rest.tail
        return (.sequence first more, rest)
    | _ => if isLast rest then return (first, rest) else misread none rest

/-- The lines of a script, up to one that cannot be read. -/
def lines (grammar : Grammar) : Nat → List Token → Script
  | 0, _ => .nothing
  | fuel + 1, tokens =>
    let tokens := skipBreaks tokens
    if atFinish tokens then .nothing
    else match grammar.lineCommands (tokens.length + 1) tokens with
      | .error misreading => .faulty misreading.line misreading.fault
      | .ok (first, rest) =>
        match lines grammar fuel rest with
        | .nothing => first
        | more => .sequence first more

end Grammar

/-- The largest number of nested constructs. -/
def depthLimit : Nat := 200

/-- Read a script. -/
def Script.ofText (text : List Char) : Script :=
  let tokens := tokensOf text
  (Grammar.ofDepth depthLimit).lines (tokens.length + 1) tokens

end QualityGate.Shell
