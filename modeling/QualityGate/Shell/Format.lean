import QualityGate.Shell.Arithmetic
import QualityGate.Text.Utf8

/-!
# Formatted output

The escapes that `echo` and `printf` know, and the conversions of `printf`.  A format is used again
and again until its arguments are used up.
-/

namespace QualityGate.Shell.Format

open QualityGate.Text (Bytes)

/-- The character that a letter after a backslash stands for. -/
def escapes : List (Char × Nat) :=
  [('a', 7), ('b', 8), ('e', 27), ('f', 12), ('n', 10), ('r', 13), ('t', 9), ('v', 11), ('\\', 92)]

/-- Whether a character is an octal digit. -/
def isOctal (c : Char) : Bool := '0' ≤ c && c ≤ '7'

/-- The byte that some octal digits stand for. -/
def octalByte (digits : List Char) : UInt8 :=
  UInt8.ofNat (digits.foldl (fun value c => value * 8 + (c.toNat - 48)) 0)

/-- What an escape stands for, and the rest; `none` in place of bytes ends the output.  In an
argument an octal escape begins with a zero; in a format it need not. -/
def escape (inFormat : Bool) : List Char → Option Bytes × List Char
  | 'c' :: rest => (none, rest)
  | c :: rest =>
    match escapes.lookup c with
    | some code => (some [UInt8.ofNat code], rest)
    | none =>
      let text := if inFormat then c :: rest else if c = '0' then rest else []
      let digits := (text.take 3).takeWhile isOctal
      if ! digits.isEmpty then (some [octalByte digits], text.drop digits.length)
      else if c = '0' && ! inFormat then (some [0], rest)
      else (some (Text.Utf8.encode ['\\', c]), rest)
  | [] => (some (Text.Utf8.encode ['\\']), [])

/-- The bytes of an argument with escapes, and whether the output goes on after it. -/
def unescape : Nat → List Char → Bytes × Bool
  | 0, _ => ([], true)
  | _, [] => ([], true)
  | fuel + 1, '\\' :: rest =>
    match escape false rest with
    | (none, _) => ([], false)
    | (some bytes, rest) =>
      let (more, goesOn) := unescape fuel rest
      (bytes ++ more, goesOn)
  | fuel + 1, c :: rest =>
    let (more, goesOn) := unescape fuel rest
    (Text.Utf8.encode [c] ++ more, goesOn)

/-- How a converted argument is laid out. -/
structure Layout where
  left : Bool := false
  zeros : Bool := false
  plus : Bool := false
  space : Bool := false
  alternative : Bool := false
  width : Nat := 0
  precision : Option Nat := none

/-- The layout at the start of a text, and the rest. -/
def layout : Layout → List Char → Layout × List Char
  | made, '-' :: rest => layout { made with left := true } rest
  | made, '0' :: rest => layout { made with zeros := true } rest
  | made, '+' :: rest => layout { made with plus := true } rest
  | made, ' ' :: rest => layout { made with space := true } rest
  | made, '#' :: rest => layout { made with alternative := true } rest
  | made, text =>
    let width := (Arithmetic.digitsValue 10 (text.takeWhile Char.isDigit)).toNat
    match text.dropWhile Char.isDigit with
    | '.' :: rest =>
      let precision := (Arithmetic.digitsValue 10 (rest.takeWhile Char.isDigit)).toNat
      ({ made with width := width, precision := some precision }, rest.dropWhile Char.isDigit)
    | rest => ({ made with width := width }, rest)

/-- A text in a field of at least some width. -/
def pad (layout : Layout) (text : List Char) : List Char :=
  let fill := List.replicate (layout.width - text.length) ' '
  if layout.left then text ++ fill else fill ++ text

/-- The digits of a number in a base. -/
def digits (base : Nat) (upper : Bool) (n : Nat) : List Char :=
  (Nat.toDigits base n).map fun c => if upper then c.toUpper else c

/-- A number in a layout, after its sign. -/
def padNumber (layout : Layout) (sign digits : List Char) : List Char :=
  let digits := List.replicate (layout.precision.getD 0 - digits.length) '0' ++ digits
  let fill := layout.width - sign.length - digits.length
  if layout.zeros && ! layout.left && layout.precision.isNone then
    sign ++ List.replicate fill '0' ++ digits
  else pad layout (sign ++ digits)

/-- The number that an argument stands for, and whether it is one as a whole. -/
def number (argument : String) : Int × Bool :=
  match Text.trimStart argument.toList with
  | [] => (0, true)
  | '\'' :: c :: _ | '"' :: c :: _ => (c.toNat, true)
  | '-' :: rest => let (n, left) := Arithmetic.number rest; (-n, left.isEmpty && ! rest.isEmpty)
  | '+' :: rest => let (n, left) := Arithmetic.number rest; (n, left.isEmpty && ! rest.isEmpty)
  | text => let (n, left) := Arithmetic.number text; (n, left.isEmpty)

/-- What is printed so far. -/
structure Output where
  bytes : Bytes := []
  /-- The arguments that are not numbers although they had to be. -/
  faults : List String := []
  /-- The output is ended. -/
  ended : Bool := false
  deriving Repr

/-- An integer in a layout. -/
def integer (layout : Layout) (conversion : Char) (n : Int) : List Char :=
  let unsigned := (n % UInt64.size).toNat
  match conversion with
  | 'o' => padNumber layout [] (digits 8 false unsigned)
  | 'x' | 'X' =>
    let sign := if layout.alternative then ['0', conversion] else []
    padNumber layout sign (digits 16 (conversion == 'X') unsigned)
  | 'u' => padNumber layout [] (digits 10 false unsigned)
  | _ =>
    let sign := if n < 0 then ['-'] else if layout.plus then ['+']
      else if layout.space then [' '] else []
    padNumber layout sign (digits 10 false n.natAbs)

/-- Print a format once; the answer has the arguments that are left. -/
def once : Nat → List Char → List String → Output → Output × List String
  | 0, _, arguments, output => (output, arguments)
  | _, [], arguments, output => (output, arguments)
  | fuel + 1, '\\' :: rest, arguments, output =>
    match escape true rest with
    | (none, _) => ({ output with ended := true }, arguments)
    | (some bytes, rest) => once fuel rest arguments { output with bytes := output.bytes ++ bytes }
  | fuel + 1, '%' :: '%' :: rest, arguments, output =>
    once fuel rest arguments { output with bytes := output.bytes ++ [37] }
  | fuel + 1, '%' :: rest, arguments, output =>
    let (layout, rest) := layout {} rest
    let argument := arguments.head?.getD ""
    let text := argument.toList
    let say := fun (text : List Char) (rest : List Char) =>
      once fuel rest arguments.tail { output with bytes := output.bytes ++ Text.Utf8.encode text }
    match rest with
    | 's' :: rest => say (pad layout (text.take (layout.precision.getD text.length))) rest
    | 'c' :: rest => say (pad layout (text.take 1)) rest
    | 'b' :: rest =>
      let (bytes, goesOn) := unescape (text.length + 1) text
      let output := { output with bytes := output.bytes ++ bytes }
      if goesOn then once fuel rest arguments.tail output
      else ({ output with ended := true }, arguments.tail)
    | c :: rest =>
      if "diouxX".contains c then
        let (n, whole) := number argument
        let faults := if whole then output.faults else output.faults ++ [argument]
        once fuel rest arguments.tail { output with
          bytes := output.bytes ++ Text.Utf8.encode (integer layout c n)
          faults := faults }
      else ({ output with faults := output.faults ++ [String.ofList ['%', c]], ended := true },
        arguments)
    | [] => ({ output with ended := true }, arguments)
  | fuel + 1, c :: rest, arguments, output =>
    once fuel rest arguments { output with bytes := output.bytes ++ Text.Utf8.encode [c] }

/-- Print a format as often as there are arguments for it, but at least once. -/
def print (format : List Char) : Nat → List String → Output → Output
  | 0, _, output => output
  | fuel + 1, arguments, output =>
    let (output, rest) := once (format.length + 1) format arguments output
    if rest.isEmpty || output.ended || rest.length = arguments.length then output
    else print format fuel rest output

end QualityGate.Shell.Format
