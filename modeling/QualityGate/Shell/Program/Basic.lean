import QualityGate.Shell.State
import QualityGate.Text.Lines
import QualityGate.Text.Order

/-!
# Programs

A program gets its arguments and the input, writes to the output and to the errors, and ends with a
code; whatever it does to files it does to the disk.
-/

namespace QualityGate.Shell

open QualityGate.Text (Bytes)

/-- A program. -/
abbrev Program := List String → ShellM Nat

namespace Program

open ShellM

/-- The line feed. -/
def lineFeed : UInt8 := 10

/-- The lines of a text, each with its line feed; the last one may lack it. -/
def linesOf (bytes : Bytes) : List Bytes :=
  let pieces := Text.splitOn lineFeed bytes
  pieces.dropLast.map (· ++ [lineFeed])
    ++ (match pieces.getLast? with
      | some [] | none => []
      | some last => [last])

/-- The options of a program as single letters, and its other arguments. -/
def options : List String → List Char × List String
  | [] => ([], [])
  | "--" :: rest => ([], rest)
  | argument :: rest =>
    let (letters, others) := options rest
    match argument.toList with
    | '-' :: c :: more => (c :: more ++ letters, others)
    | _ => (letters, argument :: others)

/-- The options of a program, of which some letters take a value, and its other arguments. -/
def valuedOptions (valued : List Char) : List String → List (Char × String) × List String
  | [] => ([], [])
  | "--" :: rest => ([], rest)
  | argument :: rest =>
    match argument.toList with
    | '-' :: c :: more =>
      let (flags, tail) := (c :: more).span (! valued.contains ·)
      let plain := flags.map fun c => (c, "")
      match tail, rest with
      | [c], value :: rest =>
        let (options, others) := valuedOptions valued rest
        (plain ++ (c, value) :: options, others)
      | c :: value, rest =>
        let (options, others) := valuedOptions valued rest
        (plain ++ (c, String.ofList value) :: options, others)
      | [], rest =>
        let (options, others) := valuedOptions valued rest
        (plain ++ options, others)
    | _ =>
      let (options, others) := valuedOptions valued rest
      (options, argument :: others)

/-- Do something with every argument; the code is another one if it fails for any. -/
def forEach (failure : Nat) (arguments : List String) (act : String → ShellM Bool) :
    ShellM Nat := do
  let done ← arguments.mapM act
  return if done.all id then 0 else failure

/-- Do something with every argument; the code is 1 if it fails for any. -/
def forAll (arguments : List String) (act : String → ShellM Bool) : ShellM Nat :=
  forEach 1 arguments act

/-- Complain about missing arguments. -/
def missing (program operand : String) : ShellM Nat := do
  complain s!"{program}: missing {operand}"
  complain s!"Try '{program} --help' for more information."
  return 1

/-- Change the disk, or complain. -/
def changing (complaint : String) (change : Disk → Time.Instant → Except FileError Disk) :
    ShellM Bool := do
  match ← changeDisk change with
  | none => return true
  | some error =>
    complain s!"{complaint}: {error.text}"
    return false

/-- The content of a file, or of the input when it is called `-`; `complaint` is what is said about
a file that cannot be read. -/
def contentOf (complaint : String → String) (path : String) : ShellM (Option Bytes) := do
  if path = "-" then return some (← takeInput)
  else
    match (← get).disk.read (← located path) with
    | .ok content => return some content
    | .error error =>
      complain (complaint path ++ ": " ++ error.text)
      return none

/-- The contents of some files in a row, or the input when there are none; whether all could be
read. -/
def contents (complaint : String → String) (paths : List String) : ShellM (Bytes × Bool) := do
  let parts ← (if paths.isEmpty then ["-"] else paths).mapM (contentOf complaint)
  return ((parts.filterMap id).flatten, parts.all Option.isSome)

/-- A complaint that begins with the name of the program and the path. -/
def plainly (program path : String) : String := s!"{program}: {path}"

/-- A complaint about a file that cannot be opened. -/
def reading (program path : String) : String := s!"{program}: cannot open '{path}' for reading"

end Program

end QualityGate.Shell
