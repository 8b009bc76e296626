import QualityGate.Shell.BuiltIn

/-!
# Running scripts

A script is run command by command.  Every command ends with a code, and zero means success.  A
script that goes on for too long, whether it waits or runs in circles, is *timed out*.

The first word of a command names a function, a command of the shell or a program, in this order.
A command that cannot be found ends with code 127.
-/

namespace QualityGate.Shell

open ShellM

/-- The largest number of rounds of a loop. -/
def roundLimit : Nat := 100000

/-- The largest number of nested commands. -/
def evaluationLimit : Nat := 2000

/-- Take back what a function has made of its own variables. -/
def restoreLocals : List (String × Option String) → ShellM Unit
  | [] => return
  | (name, value) :: rest => do
    unsetVariable name
    value.forM fun value =>
      modify fun state => { state with bindings := (name, value) :: state.bindings }
    restoreLocals rest

/-- Call a function with arguments. -/
def call (run : Runner) (body : Script) (arguments : List String) : ShellM Unit := do
  let before ← get
  set { before with arguments := arguments, localValues := [], loops := 0 }
  let result ← attempt (run body)
  restoreLocals (← get).localValues
  modify fun state => { state with
    arguments := before.arguments
    localValues := before.localValues
    loops := before.loops }
  match result with
  | .error (.returned code) => setStatus code
  | .error halt => throw halt
  | .ok _ => return

/-- Run a command by its name. -/
def runNamed (run : Runner) : String → List String → ShellM Unit
  | "command", name :: arguments =>
    match builtIn? run "command" (name :: arguments), builtIn? run name arguments with
    | some step, _ | none, some step => step
    | none, none => runProgram run name arguments
  | name, arguments => do
    match (← get).functions.lookup name, builtIn? run name arguments with
    | some body, _ => call run body arguments
    | none, some step => step
    | none, none => runProgram run name arguments

/-- Show a command before it is run. -/
def trace (assignments : List (String × String)) (fields : List String) : ShellM Unit := do
  if (← get).showsCommands then
    let shown := assignments.map (fun (name, value) => s!"{name}={value}") ++ fields
    complain ("+ " ++ " ".intercalate shown)

/-- Run a simple command. -/
def runSimple (run : Runner) (assignments : List (String × Word)) (words : List Word)
    (redirects : List Redirect) : ShellM Unit := do
  let before := (← get).status
  let fields ← expand (outputOf run) words
  if fields.isEmpty then setStatus 0
  let mut values : List (String × String) := []
  for (name, word) in assignments do
    let value ← expandOne (outputOf run) word
    if fields.isEmpty then setVariable name value
    values := values ++ [(name, value)]
  trace values fields
  match fields with
  | [] => withRedirects run redirects (return)
  | name :: arguments =>
    let outside ← get
    setStatus before
    exportAll values
    if name = "exec" && arguments.isEmpty then
      if ! (← applyRedirects run redirects) then throw (.exited 2)
      setStatus 0
    else withRedirects run redirects (runNamed run name arguments)
    if ! values.isEmpty then
      modify fun state =>
        { state with bindings := outside.bindings, exported := outside.exported }

/-- End the script if the last command failed and failures end it. -/
def checkFailure : ShellM Unit := do
  let state ← get
  if state.stopsOnFailure && state.status != 0 then throw (.exited state.status)

/-- A step whose failure does not end the script; the answer is whether it succeeds. -/
def asCondition (step : ShellM Unit) : ShellM Bool := do
  let before := (← get).stopsOnFailure
  modify fun state => { state with stopsOnFailure := false }
  let result ← attempt step
  modify fun state => { state with stopsOnFailure := before }
  match result with
  | .ok _ => return (← get).status == 0
  | .error halt => throw halt

/-- A step within one more loop. -/
def looping (step : ShellM α) : ShellM α := do
  modify fun state => { state with loops := state.loops + 1 }
  let result ← attempt step
  modify fun state => { state with loops := state.loops - 1 }
  match result with
  | .ok value => return value
  | .error halt => throw halt

/-- A round of a loop; the answer is whether there is another one. -/
def round (body : ShellM Unit) : ShellM Bool := do
  match ← attempt body with
  | .ok _ | .error (.continued 0) | .error (.continued 1) => return true
  | .error (.broken 0) | .error (.broken 1) => return false
  | .error (.broken (levels + 1)) => throw (.broken levels)
  | .error (.continued (levels + 1)) => throw (.continued levels)
  | .error halt => throw halt

/-- Rounds of a loop while its condition holds; `last` is the status of the round before. -/
def rounds (condition : ShellM Bool) (body : ShellM Unit) (last : Nat) : Nat → ShellM Unit
  | 0 => throw .timedOut
  | limit + 1 => do
    if ← condition then
      if ← round body then rounds condition body (← get).status limit else return
    else setStatus last

/-- A round of a loop for each of some words. -/
def roundsFor (name : String) (body : ShellM Unit) : List String → ShellM Unit
  | [] => return
  | word :: rest => do
    setVariable name word
    if ← round body then roundsFor name body rest else return

/-- Run a step in the background: what it does is done, but its time does not pass. -/
def inBackground (step : ShellM Unit) : ShellM Unit := do
  let before ← get
  let holdsStreams := before.outputSink == .capture 0 || before.errorSink == .errors
  if let .error (.signaled signal) ← attempt (isolated step) then throw (.signaled signal)
  let after ← get
  set { after with
    status := 0
    input := before.input
    elapsedMs := before.elapsedMs
    backgroundMs := if holdsStreams then max after.elapsedMs after.backgroundMs
      else after.backgroundMs
    backgroundStatus := after.status
    bindings := ("!", toString (before.process + 100))
      :: after.bindings.filter (·.1 != "!") }

/-- The pattern that a word is. -/
def patternOf (run : Runner) (word : Word) : ShellM (List Wildcard.Piece) := do
  let parts ← wordParts (outputOf run) [] nestingLimit (← homeWord word)
  return Field.pattern (fieldsOf none parts).flatten

/-- Run a script. -/
def evaluate : Nat → Script → ShellM Unit
  | 0, _ => throw .timedOut
  | fuel + 1, script => do
    let run := evaluate fuel
    match script with
    | .nothing => return
    | .simple line assignments words redirects =>
      modify fun state => { state with line := line }
      runSimple run assignments words redirects
      checkFailure
    | .redirected body redirects => withRedirects run redirects (run body)
    | .pipe left right =>
      let (bytes, result) ← capturing (isolated (run left))
      match result with
      | .error halt => throw halt
      | .ok _ =>
        let before := (← get).input
        setInput bytes
        isolated (run right)
        setInput before
        checkFailure
    | .negated body =>
      let succeeded ← asCondition (run body)
      setStatus (if succeeded then 1 else 0)
    | .both left right => if ← asCondition (run left) then run right
    | .either left right => if ← asCondition (run left) then return else run right
    | .sequence left right =>
      run left
      run right
    | .background body => inBackground (run body)
    | .subshell body =>
      isolated (run body)
      checkFailure
    | .choice condition positive negative =>
      if ← asCondition (run condition) then run positive
      else
        setStatus 0
        run negative
    | .loop negated condition body =>
      looping (rounds (do return (← asCondition (run condition)) != negated) (run body) 0 roundLimit)
    | .each name words body =>
      let values ← match words with
        | some words => expand (outputOf run) words
        | none => pure (← get).arguments
      setStatus 0
      looping (roundsFor name (run body) values)
    | .arm word patterns body next =>
      let text ← expandOne (outputOf run) word
      let isMatch ← patterns.anyM fun pattern => do
        return patternMatches (← patternOf run pattern) text.toList
      if isMatch then
        setStatus 0
        run body
      else run next
    | .define name body =>
      modify fun state => { state with
        functions := (name, body) :: state.functions.filter (·.1 != name) }
      setStatus 0
    | .faulty line fault =>
      modify fun state => { state with line := line }
      stop fault.message

end QualityGate.Shell
