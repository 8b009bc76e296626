import QualityGate.Shell.Arithmetic
import QualityGate.Shell.Program.Basic

/-!
# Conditions

The conditions that scripts test: about texts, numbers and files.  A condition is a list of words.
An operator before one operand is about a file or a text, and one between two operands compares
them; `!`, `-a`, `-o` and brackets put conditions together.  A word alone asks whether it is empty.
-/

namespace QualityGate.Shell

/-- Why a list of words is no condition. -/
inductive ConditionFault where
  | argumentExpected (operator : String)
  | unexpectedOperator (word : String)
  | illegalNumber (text : String)
  | unclosed
  deriving DecidableEq, Repr

/-- The fault in words. -/
def ConditionFault.message : ConditionFault → String
  | argumentExpected operator => s!"{operator}: argument expected"
  | unexpectedOperator "" => "unexpected operator"
  | unexpectedOperator word => s!"{word}: unexpected operator"
  | illegalNumber text => s!"Illegal number: {text}"
  | unclosed => "closing paren expected"

namespace Condition

/-- The operators before one operand. -/
def unaryOperators : List String := ["-n", "-z", "-f", "-d", "-e", "-r", "-w", "-x", "-s", "-L",
  "-h", "-t", "-b", "-c", "-p", "-u", "-g", "-k", "-O", "-G", "-S"]

/-- The operators between two operands. -/
def binaryOperators : List String := ["=", "!=", "<", ">", "-eq", "-ne", "-lt", "-le", "-gt",
  "-ge", "-nt", "-ot", "-ef"]

/-- Whether an operator holds of an operand. -/
def unary (state : State) (operator operand : String) : Bool :=
  let place := joinPath state.directory operand
  let disk := state.disk
  match operator with
  | "-n" => ! operand.isEmpty
  | "-z" => operand.isEmpty
  | _ =>
    if operand.isEmpty then false
    else match operator with
      | "-f" => disk.isFile place
      | "-d" | "-x" => disk.isDirectory place
      | "-e" | "-r" | "-w" | "-O" | "-G" => disk.pathExists place
      | "-s" => (disk.read place).toOption.any (! ·.isEmpty) || disk.isDirectory place
      | "-L" | "-h" => (disk.resolve false place).toOption.any (·.2 matches some (.link _))
      | _ => false

/-- The integer that a text is. -/
def integer (text : String) : Except ConditionFault Int :=
  let chars := Text.trim text.toList
  let digits := match chars with
    | '-' :: digits | '+' :: digits => digits
    | digits => digits
  if digits.isEmpty || ! digits.all Char.isDigit then .error (.illegalNumber text)
  else
    let value := Arithmetic.digitsValue 10 digits
    .ok (if chars.head? == some '-' then -value else value)

/-- When a file was modified. -/
def modified? (state : State) (path : String) : Option Time.Instant :=
  match state.disk.find (joinPath state.directory path) with
  | .ok (_, .file _ modified) => some modified
  | _ => none

/-- Whether an operator holds between two operands. -/
def binary (state : State) (left operator right : String) : Except ConditionFault Bool := do
  match operator with
  | "=" => return left == right
  | "!=" => return left != right
  | "<" => return left < right
  | ">" => return right < left
  | "-nt" | "-ot" | "-ef" =>
    let a := modified? state left
    let b := modified? state right
    return match operator, a, b with
      | "-ef", some _, some _ => joinPath state.directory left == joinPath state.directory right
      | "-nt", some a, some b => a.isAfter b
      | "-ot", some a, some b => b.isAfter a
      | "-nt", some _, none => true
      | "-ot", none, some _ => true
      | _, _, _ => false
  | _ =>
    let a ← integer left
    let b ← integer right
    return match operator with
      | "-eq" => a == b
      | "-ne" => a != b
      | "-lt" => a < b
      | "-le" => a ≤ b
      | "-gt" => b < a
      | _ => b ≤ a

/-- Whether a word that could be an operator is an operand, seen from the words after it. -/
def isOperand : List String → Bool
  | [] => true
  | [_] => false
  | operator :: word :: _ => binaryOperators.contains operator && word != ")"

/-- A condition that was found, and the words after it. -/
abbrev Found := Except ConditionFault (Bool × List String)

mutual

/-- A condition without operators that join conditions. -/
def single (state : State) : Nat → List String → Found
  | 0, words => .ok (false, words)
  | _, [] => .ok (false, [])
  | fuel + 1, word :: rest =>
    if word = "(" && ! rest.isEmpty then
      match rest with
      | ")" :: rest => .ok (false, rest)
      | _ => do
        match ← either state fuel rest with
        | (result, ")" :: rest) => return (result, rest)
        | _ => .error .unclosed
    else if unaryOperators.contains word && ! isOperand rest then
      match rest with
      | operand :: rest => .ok (unary state word operand, rest)
      | [] => .error (.argumentExpected word)
    else match rest with
      | operator :: rest =>
        if binaryOperators.contains operator then
          match rest with
          | right :: rest => do return (← binary state word operator right, rest)
          | [] => .error (.argumentExpected operator)
        else .ok (! word.isEmpty, operator :: rest)
      | [] => .ok (! word.isEmpty, [])

/-- A condition that may be turned around. -/
def negation (state : State) : Nat → List String → Found
  | 0, words => .ok (false, words)
  | fuel + 1, "!" :: rest => (negation state fuel rest).map fun (result, rest) => (! result, rest)
  | fuel + 1, words => single state fuel words

/-- Conditions that all have to hold. -/
def both (state : State) : Nat → List String → Found
  | 0, words => .ok (false, words)
  | fuel + 1, words => do
    match ← negation state fuel words with
    | (first, "-a" :: rest) =>
      let (second, rest) ← both state fuel rest
      return (first && second, rest)
    | found => return found

/-- Conditions of which one has to hold. -/
def either (state : State) : Nat → List String → Found
  | 0, words => .ok (false, words)
  | fuel + 1, words => do
    match ← both state fuel words with
    | (first, "-o" :: rest) =>
      let (second, rest) ← either state fuel rest
      return (first || second, rest)
    | found => return found

end

/-- The result of a condition. -/
def result (state : State) (words : List String) : Except ConditionFault Bool := do
  let whole (words : List String) : Except ConditionFault Bool := do
    let (result, rest) ← either state (4 * words.length + 4) words
    if rest.isEmpty then return result
    else .error (.unexpectedOperator ((words[words.length - rest.length - 1]?).getD ""))
  match words with
  | [left, operator, right] =>
    if binaryOperators.contains operator then binary state left operator right
    else if left = "!" then return ! (← whole [operator, right])
    else whole words
  | ["!", a, b, c] => return ! (← if binaryOperators.contains b then binary state a b c
      else whole [a, b, c])
  | _ => whole words

end Condition

namespace Program

open ShellM

/-- Test a condition. -/
def test (complaint : String) : Program := fun arguments => do
  match Condition.result (← get) arguments with
  | .ok true => return 0
  | .ok false => return 1
  | .error fault => do
    complain s!"{complaint}: {fault.message}"
    return 2

/-- Test a condition in brackets. -/
def bracket (complaint : String) : Program := fun arguments => do
  if arguments.getLast? == some "]" then test complaint arguments.dropLast
  else do
    complain s!"{complaint}: missing ]"
    return 2

end Program

end QualityGate.Shell
