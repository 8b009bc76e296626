import QualityGate.Shell.Lexer

/-!
# Arithmetic in scripts

Expressions over 64-bit integers with the usual operators, comparisons and conditions.  A name
stands for the value of the variable; one that is not set, or is no number, stands for zero.
-/

namespace QualityGate.Shell.Arithmetic

/-- Why an expression has no value. -/
inductive Fault where
  | expectingPrimary
  | expectingBracket
  | expectingColon
  | expectingEnd
  | divisionByZero
  deriving DecidableEq, Repr

/-- The fault in words. -/
def Fault.message : Fault → String
  | expectingPrimary => "expecting primary"
  | expectingBracket => "expecting ')'"
  | expectingColon => "expecting ':'"
  | expectingEnd => "expecting EOF"
  | divisionByZero => "division by zero"

/-- A token of an expression. -/
inductive Term where
  | number (value : Int)
  | name (name : String)
  | operator (text : String)
  deriving DecidableEq, Repr

/-- The operators, the longer ones first. -/
def operatorTexts : List String := ["<<", ">>", "<=", ">=", "==", "!=", "&&", "||", "+", "-", "*",
  "/", "%", "<", ">", "!", "~", "&", "^", "|", "(", ")", "?", ":"]

/-- The value of digits in a base. -/
def digitsValue (base : Nat) (digits : List Char) : Int :=
  digits.foldl (fun value c => value * base + (if c.isDigit then c.toNat - 48
    else c.toLower.toNat - 87 : Nat)) 0

/-- A number at the start of a text, and the rest. -/
def number (text : List Char) : Int × List Char :=
  match text with
  | '0' :: x :: rest =>
    if x = 'x' ∨ x = 'X' then
      let isHex := fun (c : Char) => c.isDigit || ('a' ≤ c.toLower && c.toLower ≤ 'f')
      (digitsValue 16 (rest.takeWhile isHex), rest.dropWhile isHex)
    else (digitsValue 8 ((x :: rest).takeWhile Char.isDigit), (x :: rest).dropWhile Char.isDigit)
  | _ => (digitsValue 10 (text.takeWhile Char.isDigit), text.dropWhile Char.isDigit)

/-- The tokens of an expression. -/
def terms? : Nat → List Char → Option (List Term)
  | 0, _ => none
  | _, [] => some []
  | fuel + 1, c :: rest =>
    if Text.isBlank c then terms? fuel rest
    else if c.isDigit then
      let (value, rest) := number (c :: rest)
      (terms? fuel rest).map (.number value :: ·)
    else if isNameChar c then
      let text := c :: rest
      let name := String.ofList (text.takeWhile isNameChar)
      (terms? fuel (text.dropWhile isNameChar)).map (.name name :: ·)
    else do
      let (operator, rest) ← leading? operatorTexts (c :: rest)
      (terms? fuel rest).map (.operator operator :: ·)

/-- How tightly an operator between two operands binds. -/
def precedence? (operator : String) : Option Nat :=
  [("||", 1), ("&&", 2), ("|", 3), ("^", 4), ("&", 5), ("==", 6), ("!=", 6), ("<", 7), ("<=", 7),
    (">", 7), (">=", 7), ("<<", 8), (">>", 8), ("+", 9), ("-", 9), ("*", 10), ("/", 10),
    ("%", 10)].lookup operator

/-- The number that a condition is. -/
def ofBool (condition : Bool) : Int := if condition then 1 else 0

/-- The integer of 64 bits that an integer wraps to. -/
def wrap (value : Int) : Int := value.bmod UInt64.size

/-- The value of an operator at two operands. -/
def combine (operator : String) (a b : Int) : Except Fault Int :=
  match operator with
  | "+" => .ok (wrap (a + b))
  | "-" => .ok (wrap (a - b))
  | "*" => .ok (wrap (a * b))
  | "/" => if b = 0 then .error .divisionByZero else .ok (wrap (a.tdiv b))
  | "%" => if b = 0 then .error .divisionByZero else .ok (a.tmod b)
  | "<<" => .ok (wrap (a * Int.ofNat (1 <<< (b % 64).toNat)))
  | ">>" => .ok (a >>> (b % 64).toNat)
  | "<" => .ok (ofBool (a < b))
  | "<=" => .ok (ofBool (a ≤ b))
  | ">" => .ok (ofBool (b < a))
  | ">=" => .ok (ofBool (b ≤ a))
  | "==" => .ok (ofBool (a = b))
  | "!=" => .ok (ofBool (a ≠ b))
  | "&&" => .ok (ofBool (a ≠ 0 && b ≠ 0))
  | "||" => .ok (ofBool (a ≠ 0 || b ≠ 0))
  | "&" => .ok (.ofNat ((a % UInt64.size).toNat &&& (b % UInt64.size).toNat) |> wrap)
  | "|" => .ok (.ofNat ((a % UInt64.size).toNat ||| (b % UInt64.size).toNat) |> wrap)
  | "^" => .ok (.ofNat ((a % UInt64.size).toNat ^^^ (b % UInt64.size).toNat) |> wrap)
  | _ => .error .expectingPrimary

mutual

/-- The value of an operand, and the tokens after it. -/
def operand (value : String → Int) : Nat → List Term → Except Fault (Int × List Term)
  | 0, _ => .error .expectingPrimary
  | _, .number n :: rest => .ok (n, rest)
  | _, .name name :: rest => .ok (value name, rest)
  | fuel + 1, .operator "-" :: rest =>
    (operand value fuel rest).map fun (n, rest) => (wrap (-n), rest)
  | fuel + 1, .operator "+" :: rest => operand value fuel rest
  | fuel + 1, .operator "!" :: rest =>
    (operand value fuel rest).map fun (n, rest) => (ofBool (n = 0), rest)
  | fuel + 1, .operator "~" :: rest =>
    (operand value fuel rest).map fun (n, rest) => (-n - 1, rest)
  | fuel + 1, .operator "(" :: rest => do
    match ← condition value fuel rest with
    | (n, .operator ")" :: rest) => .ok (n, rest)
    | _ => .error .expectingBracket
  | _, _ => .error .expectingPrimary

/-- The value of an expression whose operators bind at least so tightly. -/
def binary (value : String → Int) : Nat → Nat → List Term → Except Fault (Int × List Term)
  | 0, _, _ => .error .expectingPrimary
  | fuel + 1, level, terms => do
    let (left, rest) ← operand value fuel terms
    continued value fuel level left rest

/-- The value of an expression whose left operand is known. -/
def continued (value : String → Int) :
    Nat → Nat → Int → List Term → Except Fault (Int × List Term)
  | 0, _, _, _ => .error .expectingPrimary
  | fuel + 1, level, left, .operator text :: rest =>
    match precedence? text with
    | some binding =>
      if binding < level then .ok (left, .operator text :: rest)
      else do
        let (right, rest) ← binary value fuel (binding + 1) rest
        continued value fuel level (← combine text left right) rest
    | none => .ok (left, .operator text :: rest)
  | _, _, left, rest => .ok (left, rest)

/-- The value of an expression that may be a choice. -/
def condition (value : String → Int) : Nat → List Term → Except Fault (Int × List Term)
  | 0, _ => .error .expectingPrimary
  | fuel + 1, terms => do
    match ← binary value fuel 1 terms with
    | (test, .operator "?" :: rest) =>
      match ← condition value fuel rest with
      | (positive, .operator ":" :: rest) =>
        let (negative, rest) ← condition value fuel rest
        return (if test = 0 then negative else positive, rest)
      | _ => .error .expectingColon
    | parsed => return parsed

end

/-- The value of an expression without assignments. -/
def evaluate (value : String → Int) (text : List Char) : Except Fault Int := do
  match terms? (text.length + 1) text with
  | none => .error .expectingPrimary
  | some [] => .ok 0
  | some terms =>
    match ← condition value (4 * terms.length + 8) terms with
    | (n, []) => .ok n
    | _ => .error .expectingEnd

/-- The operators that assign, with the operator that is applied first. -/
def assignments : List (String × Option String) := [("=", none), ("+=", some "+"),
  ("-=", some "-"), ("*=", some "*"), ("/=", some "/"), ("%=", some "%"), ("<<=", some "<<"),
  (">>=", some ">>"), ("&=", some "&"), ("|=", some "|"), ("^=", some "^")]

/-- The name that an expression assigns to, the operator, and the expression for the value. -/
def assignment? (text : List Char) : Option (String × Option String × List Char) := do
  let text := Text.trimStart text
  let name := text.takeWhile isNameChar
  let (operator, body) ← leading? (assignments.map (·.1)) (Text.trimStart (text.drop name.length))
  if isName name && ! (operator = "=" && body.head? == some '=') then
    return (String.ofList name, (assignments.lookup operator).join, body)
  else none

/-- The value of an expression, and the variable that it is assigned to. -/
def assigned (value : String → Int) (text : List Char) : Except Fault (Int × Option String) := do
  match assignment? text with
  | none => return (← evaluate value text, none)
  | some (name, operator, body) =>
    let right ← evaluate value body
    let result ← match operator with
      | some operator => combine operator (value name) right
      | none => pure right
    return (result, some name)

end QualityGate.Shell.Arithmetic
