import QualityGate.Shell.Format
import QualityGate.Shell.Program.Basic

/-!
# Programs for lines

Programs that choose, count, sort and change the lines of a text.
-/

namespace QualityGate.Shell.Program

open QualityGate.Text (Bytes)
open ShellM

/-- The number in options such as `-n 3`, `-n3` and `-3`, whether it counts bytes, and the other
arguments. -/
def countOption (default : String) : List String → String × Bool × List String
  | "-n" :: count :: rest => (count, false, rest)
  | "-c" :: count :: rest => (count, true, rest)
  | argument :: rest =>
    match argument.toList with
    | '-' :: 'n' :: digits => (String.ofList digits, false, rest)
    | '-' :: 'c' :: digits => (String.ofList digits, true, rest)
    | '-' :: digits@(_ :: _) => (String.ofList digits, false, rest)
    | _ => (default, false, argument :: rest)
  | [] => (default, false, [])

/-- Print the start of a text; a count with a minus sign is what is left out at the end. -/
def head : Program := fun arguments => do
  let (count, inBytes, paths) := countOption "10" arguments
  let (bytes, complete) ← contents (reading "head") paths
  let lines := linesOf bytes
  match count.toList with
  | '-' :: digits =>
    let n := (String.ofList digits).toNat?.getD 0
    put (if inBytes then bytes.take (bytes.length - n) else (lines.take (lines.length - n)).flatten)
  | _ =>
    let n := count.toNat?.getD 0
    put (if inBytes then bytes.take n else (lines.take n).flatten)
  return if complete then 0 else 1

/-- Print the end of a text; a count with a plus sign is where it begins. -/
def tail : Program := fun arguments => do
  let (count, inBytes, paths) := countOption "10" arguments
  let (bytes, complete) ← contents (reading "tail") paths
  let lines := linesOf bytes
  match count.toList with
  | '+' :: digits =>
    let skipped := ((String.ofList digits).toNat?.getD 1) - 1
    put (if inBytes then bytes.drop skipped else (lines.drop skipped).flatten)
  | _ =>
    let n := count.toNat?.getD 0
    put (if inBytes then bytes.drop (bytes.length - n) else (lines.drop (lines.length - n)).flatten)
  return if complete then 0 else 1

/-- Count lines, words or bytes. -/
def wc : Program := fun arguments => do
  let (letters, paths) := options arguments
  let (bytes, complete) ← contents (plainly "wc") paths
  let isBlank := fun (b : UInt8) => b == 32 || (9 ≤ b && b ≤ 13)
  let words := (bytes.foldl (fun (count, inWord) b =>
    if isBlank b then (count, false) else (if inWord then count else count + 1, true))
    (0, false)).1
  let counts := [('l', bytes.count lineFeed), ('w', words), ('c', bytes.length)]
  let chosen := if letters.isEmpty then counts else counts.filter (letters.contains ·.1)
  let shown := chosen.map fun (_, n) => toString n
  let alone := shown.length = 1 && paths.isEmpty
  let columns := if alone || ! paths.isEmpty then " ".intercalate shown
    else String.join (shown.map fun n => String.ofList (Format.pad { width := 7 } n.toList) ++ " ")
  let names := paths.map (" " ++ ·)
  line (String.join ((if alone || ! paths.isEmpty then columns
    else String.ofList columns.toList.dropLast) :: names))
  return if complete then 0 else 1

/-- Print lines in order. -/
def sort : Program := fun arguments => do
  let (letters, paths) := options arguments
  let (bytes, complete) ← contents (fun path => s!"sort: cannot read: {path}") paths
  let lines := (linesOf bytes).map fun line => line.filter (· != lineFeed)
  let byText := fun (a b : Bytes) => (compare (a.map UInt8.toNat) (b.map UInt8.toNat)).isLE
  let value := fun (a : Bytes) => (Format.number (Text.stringLossy a)).1
  let inOrder := if letters.contains 'n'
    then (lines.mergeSort byText).mergeSort fun a b => value a ≤ value b
    else lines.mergeSort byText
  let inOrder := if letters.contains 'u' then inOrder.eraseDups else inOrder
  let inOrder := if letters.contains 'r' then inOrder.reverse else inOrder
  put (inOrder.flatMap (· ++ [lineFeed]))
  return if complete then 0 else 2

/-- Runs of equal lines, as one line with its number of repetitions. -/
def runs (lines : List Bytes) : List (Nat × Bytes) :=
  (lines.splitBy (· == ·)).filterMap fun run => run.head?.map fun line => (run.length, line)

/-- Print a line once where it is repeated. -/
def uniq : Program := fun arguments => do
  let (letters, paths) := options arguments
  let (bytes, complete) ← contents (plainly "uniq") paths
  for (count, line) in runs (linesOf bytes) do
    if ! (letters.contains 'd' && count = 1) && ! (letters.contains 'u' && count != 1) then
      if letters.contains 'c' then
        put (Text.Utf8.encode (Format.pad { width := 7 } (toString count).toList ++ [' ']))
      put line
  return if complete then 0 else 1

/-- Print the input, and write it to files. -/
def tee : Program := fun arguments => do
  let (letters, paths) := options arguments
  let input ← takeInput
  put input
  forAll paths fun path => do
    let place ← located path
    changing s!"tee: {path}" fun disk now => do
      let before := if letters.contains 'a' then (disk.read place).toOption.getD [] else []
      disk.write now place (before ++ input)

/-- The characters of a set such as `a-z`. -/
def characterSet : List Char → List Char
  | '\\' :: 'n' :: rest => '\n' :: characterSet rest
  | '\\' :: 't' :: rest => '\t' :: characterSet rest
  | '\\' :: '0' :: rest => '\x00' :: characterSet rest
  | '\\' :: c :: rest => c :: characterSet rest
  | low :: '-' :: high :: rest =>
    (List.range (high.toNat + 1 - low.toNat)).map (fun n => Char.ofNat (low.toNat + n))
      ++ characterSet rest
  | c :: rest => c :: characterSet rest
  | [] => []

/-- Replace or delete characters of the input. -/
def tr : Program := fun arguments => do
  let text := Text.Utf8.decodeLossy (← takeInput)
  match arguments with
  | ["-d", set] =>
    let removed := characterSet set.toList
    put (Text.Utf8.encode (text.filter fun c => ! removed.contains c))
    return 0
  | [source, target] =>
    let old := characterSet source.toList
    let new := characterSet target.toList
    put (Text.Utf8.encode (text.map fun c => match old.idxOf? c with
      | some n => (new[n]?).getD (new.getLast?.getD c)
      | none => c))
    return 0
  | _ => return 1

/-- The places that a list such as `1,3-5` chooses. -/
def isChosen (list : String) (place : Nat) : Bool :=
  (Text.splitOn ',' list.toList).any fun range =>
    match Text.cutAt? ['-'] range with
    | none => (String.ofList range).toNat? == some place
    | some (low, high) =>
      (low.isEmpty || (String.ofList low).toNat?.any (· ≤ place))
        && (high.isEmpty || (String.ofList high).toNat?.any (place ≤ ·))

/-- Print parts of the lines: some characters, or some fields between separators. -/
def cut : Program := fun arguments => do
  let (given, paths) := valuedOptions ['d', 'f', 'c', 'b'] arguments
  let (bytes, complete) ← contents (plainly "cut") paths
  let value := fun (letter : Char) => given.lookup letter
  let choose {α : Type} (list : String) (items : List α) : List α :=
    (items.zipIdx.filter fun (_, place) => isChosen list (place + 1)).map (·.1)
  let separator := ((value 'd').bind fun text => (Text.bytesOf text).head?).getD 9
  for line in linesOf bytes do
    let text := line.filter (· != lineFeed)
    let kept := match (value 'c').or (value 'b'), value 'f' with
      | some list, _ => choose list text
      | none, some list =>
        let fields := Text.splitOn separator text
        if fields.length = 1 then text
        else Text.joinWith [separator] (choose list fields)
      | none, none => text
    put (kept ++ [lineFeed])
  return if complete then 0 else 1

/-- Print the lines in the opposite order. -/
def tac : Program := fun paths => do
  let (bytes, complete) ← contents (fun path => s!"tac: failed to open '{path}' for reading") paths
  put (linesOf bytes).reverse.flatten
  return if complete then 0 else 1

/-- Print the lines with their characters in the opposite order. -/
def rev : Program := fun paths => do
  let (bytes, complete) ← contents (fun path => s!"rev: cannot open {path}") paths
  for line in linesOf bytes do
    let text := Text.Utf8.decodeLossy (line.filter (· != lineFeed))
    put (Text.Utf8.encode text.reverse ++ line.filter (· == lineFeed))
  return if complete then 0 else 1

end QualityGate.Shell.Program
