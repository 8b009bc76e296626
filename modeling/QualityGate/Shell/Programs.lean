import QualityGate.Digest.Algorithm
import QualityGate.Shell.Program.Condition
import QualityGate.Shell.Program.Files
import QualityGate.Shell.Program.Lines
import QualityGate.Shell.Program.Patterns

/-!
# The programs by name

The programs that can be run, as far as they run no other programs.
-/

namespace QualityGate.Shell.Program

open QualityGate.Text (Bytes)
open ShellM

/-- Print the arguments.  The shell has an `echo` of its own, which knows escapes. -/
def echo (isBuiltIn : Bool) : Program := fun arguments => do
  let (endsLine, arguments) := match arguments with
    | "-n" :: rest => (false, rest)
    | arguments => (true, arguments)
  let (escaped, arguments) := match arguments with
    | "-e" :: rest => if isBuiltIn then (true, arguments) else (true, rest)
    | arguments => (isBuiltIn, arguments)
  let text := (" ".intercalate arguments).toList
  let (bytes, goesOn) :=
    if escaped then Format.unescape (text.length + 1) text else (Text.Utf8.encode text, true)
  put (bytes ++ if endsLine && goesOn then [lineFeed] else [])
  return 0

/-- Print a format. -/
def printf (complaint : String) : Program
  | [] => do
    complain s!"{complaint}: usage: printf format [arg ...]"
    return 2
  | format :: arguments => do
    let output := Format.print format.toList (arguments.length + 1) arguments {}
    put output.bytes
    for fault in output.faults do
      complain s!"{complaint}: {fault}: expected numeric value"
    return if output.faults.isEmpty then 0 else 1

/-- The milliseconds of a number of seconds with a fraction and perhaps a unit. -/
def milliseconds? (text : String) : Option Nat :=
  let chars := text.toList
  let (factor, chars) := match chars.getLast? with
    | some 's' => (1, chars.dropLast)
    | some 'm' => (60, chars.dropLast)
    | some 'h' => (3600, chars.dropLast)
    | _ => (1, chars)
  let whole := chars.takeWhile Char.isDigit
  let fraction? := match chars.dropWhile Char.isDigit with
    | [] => some []
    | '.' :: digits => if digits.all Char.isDigit then some digits else none
    | _ => none
  match fraction? with
  | some fraction =>
    if whole.isEmpty && fraction.isEmpty then none
    else
      let padded := (fraction ++ ['0', '0', '0']).take 3
      some ((Arithmetic.digitsValue 10 (whole ++ padded)).toNat * factor)
  | none => none

/-- Let time pass. -/
def sleep : Program := fun arguments => do
  match arguments.mapM milliseconds? with
  | some (first :: rest) => do
    wait (rest.foldl (· + ·) first)
    return 0
  | _ => do
    if arguments.isEmpty then complain "sleep: missing operand"
    (arguments.filter fun argument => (milliseconds? argument).isNone).forM fun argument =>
      complain s!"sleep: invalid time interval '{argument}'"
    complain "Try 'sleep --help' for more information."
    return 1

/-- Print numbers. -/
def seq : Program := fun arguments => do
  let (first, step, last) := match arguments.map fun n => (Format.number n).1 with
    | [last] => (1, 1, last)
    | [first, last] => (first, 1, last)
    | [first, step, last] => (first, step, last)
    | _ => (1, 1, 0)
  let count := if step = 0 then 0 else ((last - first).fdiv step + 1).toNat
  for n in List.range count do
    line (toString (first + step * Int.ofNat n))
  return 0

/-- The value of an expression of words. -/
def expression? : List String → Option String
  | [value] => some value
  | ["length", text] => some (toString text.length)
  | [left, operator, right] =>
    let a := (Condition.integer left).toOption
    let b := (Condition.integer right).toOption
    let compared := match a, b with
      | some a, some b => compare a b
      | _, _ => compare left right
    let truth := fun (holds : Bool) => some (if holds then "1" else "0")
    match operator with
    | "=" => truth (compared == .eq)
    | "!=" => truth (compared != .eq)
    | "<" => truth (compared == .lt)
    | "<=" => truth (compared != .gt)
    | ">" => truth (compared == .gt)
    | ">=" => truth (compared != .lt)
    | "|" => some (if left.isEmpty || left = "0" then right else left)
    | "&" => some (if left.isEmpty || left = "0" || right.isEmpty || right = "0" then "0" else left)
    | _ => do return toString (← (Arithmetic.combine operator (← a) (← b)).toOption)
  | _ => none

/-- Print the value of an expression. -/
def expr : Program := fun arguments => do
  match expression? arguments with
  | some value =>
    line value
    return if value.isEmpty || value = "0" then 1 else 0
  | none =>
    if arguments.isEmpty then
      let _ ← missing "expr" "operand"
    else complain "expr: syntax error"
    return 2

/-- Print the digests of files. -/
def digestSum (name : String) (algorithm : Algorithm) : Program := fun paths =>
  forAll (if paths.isEmpty then ["-"] else paths) fun path => do
    match ← contentOf (plainly name) path with
    | some bytes =>
      line s!"{algorithm.digest bytes}  {path}"
      return true
    | none => return false

/-- Print a text. -/
def say (text : String) : Program := fun _ => do
  line text
  return 0

/-- The programs by name. -/
def named : List (String × Program) := [
  ("true", fun _ => return 0), ("false", fun _ => return 1), ("echo", echo false),
  ("printf", printf "printf"), ("cat", cat), ("touch", touch), ("mkdir", mkdir), ("rmdir", rmdir),
  ("rm", rm), ("cp", transfer "cp" false), ("mv", transfer "mv" true), ("ln", ln),
  ("chmod", chmod), ("sleep", sleep), ("test", test "test"), ("[", bracket "["), ("pwd", pwd),
  ("head", head), ("tail", tail), ("wc", wc), ("seq", seq), ("sort", sort), ("uniq", uniq),
  ("tee", tee), ("basename", basename), ("dirname", dirname), ("tr", tr), ("cut", cut),
  ("tac", tac), ("rev", rev), ("grep", grep), ("sed", sed), ("ls", ls), ("expr", expr),
  ("sha256sum", digestSum "sha256sum" .sha256), ("sha512sum", digestSum "sha512sum" .sha512),
  ("uname", say "Linux"), ("whoami", say "root"), ("sync", fun _ => return 0)]

/-- The directories that programs are in. -/
def directories : List String := ["/bin/", "/usr/bin/"]

end QualityGate.Shell.Program
