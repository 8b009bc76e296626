import QualityGate.Text.Blank

/-!
# Shell scripts

A stage may run a script.  A script is made of *words*, which stand for texts once the parameters
in them are known, and of commands, which are put together from smaller ones.
-/

namespace QualityGate.Shell

/-- A piece of a word.  What a quoted piece stands for is neither split at blanks nor matched
against the names of files. -/
inductive Piece where
  | text (quoted : Bool) (text : List Char)
  /-- The value of a parameter. -/
  | parameter (quoted : Bool) (name : String)
  /-- The value of a parameter, changed by an operator with the text after it. -/
  | adjusted (quoted : Bool) (name operator : String) (operand : List Char)
  /-- What a script prints. -/
  | output (quoted : Bool) (script : List Char)
  /-- The value of an arithmetic expression. -/
  | arithmetic (quoted : Bool) (expression : List Char)
  deriving DecidableEq, Repr

/-- A word. -/
abbrev Word := List Piece

/-- How a stream of a command is redirected. -/
inductive RedirectKind where
  | read
  /-- From a text that is a part of the script. -/
  | here
  | write
  | append
  /-- Into where another stream goes. -/
  | duplicate
  deriving DecidableEq, Repr

/-- A redirection of a stream. -/
structure Redirect where
  stream : Nat
  kind : RedirectKind
  target : Word
  deriving DecidableEq, Repr

/-- Why a text is no script. -/
inductive Fault where
  | unterminatedQuote
  | unterminatedBackquote
  | missingBrace
  | badSubstitution
  | badLoopVariable
  /-- Something stands where it cannot; perhaps only one other thing could. -/
  | unexpected (found : String) (expected : Option String)
  deriving DecidableEq, Repr

/-- The fault in words. -/
def Fault.message : Fault → String
  | unterminatedQuote => "Syntax error: Unterminated quoted string"
  | unterminatedBackquote => "Syntax error: EOF in backquote substitution"
  | missingBrace => "Syntax error: Missing '\x7d'"
  | badSubstitution => "Bad substitution"
  | badLoopVariable => "Syntax error: Bad for loop variable"
  | unexpected found none => s!"Syntax error: {found} unexpected"
  | unexpected found (some expected) =>
    s!"Syntax error: {found} unexpected (expecting {expected})"

/-- A command. -/
inductive Script where
  | nothing
  /-- Assignments, words and redirections, with the number of the line. -/
  | simple (line : Nat) (assignments : List (String × Word)) (words : List Word)
      (redirects : List Redirect)
  | redirected (body : Script) (redirects : List Redirect)
  | pipe (left right : Script)
  | negated (body : Script)
  /-- The right command is run if the left one succeeds. -/
  | both (left right : Script)
  /-- The right command is run if the left one fails. -/
  | either (left right : Script)
  | sequence (left right : Script)
  /-- The command is not waited for. -/
  | background (body : Script)
  /-- What the command does to the shell is undone. -/
  | subshell (body : Script)
  | choice (condition positive negative : Script)
  /-- The body is run as long as the condition succeeds, or fails when `negated`. -/
  | loop (negated : Bool) (condition body : Script)
  /-- The body is run for each of some words, or of the arguments. -/
  | each (name : String) (words : Option (List Word)) (body : Script)
  /-- The body is run if the word matches a pattern, else the next arm. -/
  | arm (word : Word) (patterns : List Word) (body next : Script)
  | define (name : String) (body : Script)
  /-- From here on the text is no script. -/
  | faulty (line : Nat) (fault : Fault)
  deriving Repr

/-- What a token is. -/
inductive Symbol where
  | word (word : Word)
  | operator (text : String)
  /-- The operator of a redirection, after the number of the stream if there is one. -/
  | redirect (stream : Option Nat) (operator : String)
  | faulty (fault : Fault)
  /-- The end of the script. -/
  | finish
  deriving DecidableEq, Repr

/-- A token of a script, with the number of its line. -/
structure Token where
  line : Nat
  symbol : Symbol
  deriving DecidableEq, Repr

/-- The text of a word that is written without quotes and without parameters. -/
def Word.bare? : Word → Option String
  | [.text false text] => some (String.ofList text)
  | _ => none

end QualityGate.Shell
