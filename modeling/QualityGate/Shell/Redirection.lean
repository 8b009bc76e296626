import QualityGate.Shell.Expansion
import QualityGate.Shell.Parser

/-!
# Streams of commands

A command reads its input and writes to its output and its errors.  Each of these streams can be
redirected for one command: to a file, to nowhere, or to where another stream goes.
-/

namespace QualityGate.Shell

open QualityGate.Text (Bytes)
open ShellM

/-- How a part of a script is run. -/
abbrev Runner := Script → ShellM Unit

/-- Run a script that is given as a text. -/
def runText (run : Runner) (text : String) : ShellM Unit := run (Script.ofText text.toList)

/-- The output of a script within a word. -/
def outputOf (run : Runner) : OutputOf := fun script => do
  let (bytes, result) ← capturing (isolated (run (Script.ofText script)))
  match result with
  | .ok _ => return bytes
  | .error halt => throw halt

/-- Why a file cannot be written to, in the words of the shell. -/
def creationNotice : FileError → String
  | .notFound => "Directory nonexistent"
  | error => error.text

/-- Why a file cannot be read, in the words of the shell. -/
def openingNotice : FileError → String
  | .notFound => "No such file"
  | error => error.text

/-- Open a file for a stream, or say why it cannot be. -/
def openSink (path : String) (appends : Bool) : ShellM (Option Sink) := do
  if path = "/dev/null" then return some .nowhere
  if path = "/dev/stdout" then return some (← get).outputSink
  if path = "/dev/stderr" then return some (← get).errorSink
  let place ← located path
  let problem ← changeDisk fun disk now =>
    if appends && disk.isFile place then .ok disk else disk.write now place []
  match problem with
  | none => return some (.file place)
  | some error =>
    report s!"cannot create {path}: {creationNotice error}"
    return none

/-- Let a stream go to a sink. -/
def setSink (stream : Nat) (sink : Sink) : ShellM Unit :=
  modify fun state =>
    if stream = 1 then { state with outputSink := sink }
    else if stream = 2 then { state with errorSink := sink }
    else state

/-- Read the input from a text. -/
def setInput (input : Bytes) : ShellM Unit := modify fun state => { state with input := input }

/-- Redirect a stream; the answer is whether it could be done. -/
def applyRedirect (run : Runner) (redirect : Redirect) : ShellM Bool := do
  let target ← expandOne (outputOf run) redirect.target
  let state ← get
  match redirect.kind with
  | .write | .append => do
    match ← openSink target (redirect.kind == .append) with
    | some sink =>
      setSink redirect.stream sink
      return true
    | none => return false
  | .read => do
    match state.disk.read (← located target) with
    | .ok content =>
      setInput content
      return true
    | .error error =>
      report s!"cannot open {target}: {openingNotice error}"
      return false
  | .here => do
    setInput (Text.bytesOf target)
    return true
  | .duplicate => do
    match target with
    | "0" | "-" => setSink redirect.stream .nowhere
    | "1" => setSink redirect.stream state.outputSink
    | "2" => setSink redirect.stream state.errorSink
    | _ =>
      if (target.toList.all Char.isDigit) then report s!"{target}: Bad file descriptor"
      else stop "Syntax error: Bad fd number"
      return false
    return true

/-- Redirect streams in order, until one cannot be. -/
def applyRedirects (run : Runner) (redirects : List Redirect) : ShellM Bool :=
  redirects.allM (applyRedirect run)

/-- A step with redirected streams; they are as before afterwards. -/
def withRedirects (run : Runner) (redirects : List Redirect) (step : ShellM Unit) :
    ShellM Unit := do
  let before ← get
  let result ← attempt do
    if ← applyRedirects run redirects then step else setStatus 2
  let readsFile := redirects.any fun redirect => redirect.kind == .read || redirect.kind == .here
  modify fun state => { state with
    outputSink := before.outputSink
    errorSink := before.errorSink
    input := if readsFile then before.input else state.input }
  match result with
  | .ok _ => return
  | .error halt => throw halt

end QualityGate.Shell
