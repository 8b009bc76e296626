import QualityGate.Run.Outcome
import QualityGate.Scope.Selection
import QualityGate.Stage.Basic
import QualityGate.Text.Lines

/-!
# Arguments of the command

The arguments name an action and say how it is done.  They are read level by level: the arguments up
to the name of a command belong to the level above it, all others to the command.

* An option with a value may be given many times; the value follows it, or is attached to it.  What
  begins with a `-` is never a value that follows.
* Any other option may be given once at each level, and has no value.
* After `--` everything is an operand, as is a single `-`.
* The first thing that cannot be understood decides, unless help or the version was asked for
  before it.
-/

namespace QualityGate.Command

/-- What an option does. -/
inductive OptionKind where
  | flag
  /-- It takes a value. -/
  | value
  | help
  | version
  deriving DecidableEq, Repr

/-- An option, by its name and its letter. -/
structure OptionSpec where
  name : String
  letter : Option Char
  kind : OptionKind
  deriving DecidableEq, Repr

/-- What may be given at a level. -/
structure Level where
  options : List OptionSpec := []
  /-- The names of the commands below. -/
  commands : List String := []
  /-- The largest number of operands, if there is one. -/
  operandLimit : Option Nat := some 0
  deriving Repr

/-- Why there is no action. -/
inductive Refusal where
  | help
  | version
  /-- The arguments make no sense. -/
  | misuse
  deriving DecidableEq, Repr

/-- What was given at a level. -/
structure Given where
  flags : List String := []
  values : List (String × String) := []
  operands : List String := []
  /-- The command below with its arguments. -/
  command : Option (String × List String) := none
  deriving DecidableEq, Repr

/-- The options of every level. -/
def commonOptions : List OptionSpec :=
  [⟨"verbose", some 'v', .flag⟩, ⟨"json", none, .flag⟩, ⟨"help", some 'h', .help⟩]

namespace Level

/-- A level with options of its own. -/
def ofOptions (options : List OptionSpec) (operandLimit : Option Nat) : Level where
  options := commonOptions ++ options
  operandLimit := operandLimit

/-- A level that only leads to commands. -/
def ofCommands (options : List OptionSpec) (commands : List String) : Level where
  options := commonOptions ++ options
  commands := commands

/-- Take an operand. -/
def takeOperand (level : Level) (given : Given) (operand : String) : Except Refusal Given :=
  if level.operandLimit.any (· ≤ given.operands.length) then .error .misuse
  else .ok { given with operands := given.operands ++ [operand] }

/-- Take an option without a value. -/
def takeFlag (option : OptionSpec) (given : Given) : Except Refusal Given :=
  match option.kind with
  | .help => .error .help
  | .version => .error .version
  | .value => .error .misuse
  | .flag =>
    if given.flags.contains option.name then .error .misuse
    else .ok { given with flags := given.flags ++ [option.name] }

/-- Take an option with its value. -/
def takeValue (option : OptionSpec) (value : String) (given : Given) : Given :=
  { given with values := given.values ++ [(option.name, value)] }

/-- Take an option by its name; the answer is an option that still needs its value. -/
def takeNamed (level : Level) (given : Given) (text : List Char) :
    Except Refusal (Given × Option OptionSpec) :=
  let name := String.ofList (text.takeWhile (· ≠ '='))
  let attached := text.dropWhile (· ≠ '=')
  match level.options.find? (·.name == name) with
  | none => .error .misuse
  | some option =>
    match option.kind, attached with
    | .value, _ :: value => .ok (takeValue option (String.ofList value) given, none)
    | .value, [] => .ok (given, some option)
    | _, [] => (takeFlag option given).map (·, none)
    | _, _ => .error .misuse

/-- Take options by their letters; the answer is an option that still needs its value. -/
def takeLetters (level : Level) (given : Given) : List Char →
    Except Refusal (Given × Option OptionSpec)
  | [] => .ok (given, none)
  | letter :: rest =>
    match level.options.find? (·.letter == some letter) with
    | none => .error .misuse
    | some option =>
      match option.kind, rest with
      | .value, [] => .ok (given, some option)
      | .value, '=' :: value => .ok (takeValue option (String.ofList value) given, none)
      | .value, value => .ok (takeValue option (String.ofList value) given, none)
      | _, rest => do level.takeLetters (← takeFlag option given) rest

/-- Whether an argument can be nothing but an option. -/
def isOption (argument : String) : Bool := argument.startsWith "-" && argument != "-"

/-- Take one argument that is no command; the answer is an option that still needs its value. -/
def take (level : Level) (given : Given) (argument : String) :
    Except Refusal (Given × Option OptionSpec) :=
  match argument.toList with
  | '-' :: '-' :: name => level.takeNamed given name
  | '-' :: letter :: letters => level.takeLetters given (letter :: letters)
  | _ => (level.takeOperand given argument).map (·, none)

/-- Read the arguments of a level. -/
def read (level : Level) (given : Given) : List String → Except Refusal Given
  | [] => .ok given
  | argument :: rest =>
    if argument = "--" then rest.foldlM level.takeOperand given
    else if level.commands.contains argument then
      .ok { given with command := some (argument, rest) }
    else
      match level.take given argument, rest with
      | .error refusal, _ => .error refusal
      | .ok (given, none), rest => level.read given rest
      | .ok (_, some _), [] => .error .misuse
      | .ok (given, some option), value :: rest =>
        if isOption value then .error .misuse
        else level.read (takeValue option value given) rest

end Level

/-- What the command is to do. -/
inductive Action where
  /-- Say what the command is. -/
  | welcome
  | version
  | init (force : Bool)
  | run (scope : RunScope) (fileScope : FileScope)
  | scan (paths rules : List String) (fileScope : FileScope) (fix : Bool)
  /-- Generate the manifest of one unit, or of all. -/
  | generate (unit : Option String)
  /-- Check one unit, or all. -/
  | check (unit : Option String) (expire : Bool)
  | showManifest (unit : String)
  | showScope (changedOnly : Bool)
  | markBaseline
  | showBaseline
  deriving DecidableEq, Repr

/-- An action with the form of its output. -/
structure Request where
  action : Action
  /-- The output is a record instead of text for people. -/
  json : Bool
  deriving DecidableEq, Repr

namespace Request

/-- A flag of a command. -/
def flag (name : String) (letter : Option Char := none) : OptionSpec := ⟨name, letter, .flag⟩

/-- The file scope that the flags ask for. -/
def fileScope (given : Given) : FileScope :=
  if given.flags.contains "changed-only" then .changedOnly else .full

/-- The names of the actions on manifests. -/
def manifestCommands : List String := ["generate", "check", "show"]

/-- The names of the actions on the marker. -/
def baselineCommands : List String := ["mark", "show"]

/-- The names of the commands. -/
def commandNames : List String :=
  ["init", "run", "scan", "manifest", "scope", "baseline", "version"]

/-- What help can be asked about. -/
def topics : List (List String) :=
  [[], ["help"]] ++ commandNames.map ([·])
    ++ ["manifest", "baseline"].map ([·, "help"])
    ++ manifestCommands.map (["manifest", ·]) ++ baselineCommands.map (["baseline", ·])

/-- Asking for help about something. -/
def helpAbout (topic : List String) : Refusal := if topics.contains topic then .help else .misuse

/-- Read the arguments of a command that has none below. -/
def readLeaf (options : List OptionSpec) (operandLimit : Option Nat)
    (action : Given → Except Refusal Action) (arguments : List String) :
    Except Refusal (Action × Bool) := do
  let given ← (Level.ofOptions options operandLimit).read {} arguments
  return (← action given, given.flags.contains "json")

/-- The commands of a level, by name. -/
abbrev Commands := List (String × (List String → Except Refusal (Action × Bool)))

/-- Read the arguments of a level that leads to commands.  Without a command the action is the given
one, if there is any. -/
def readBranch (topic : List String) (options : List OptionSpec) (commands : Commands)
    (default : Option Action) (arguments : List String) : Except Refusal (Action × Bool) := do
  let names := commands.map (·.1) ++ ["help"]
  let given ← (Level.ofCommands options names).read {} arguments
  let json := given.flags.contains "json"
  match given.command, default with
  | some (name, rest), _ =>
    match commands.lookup name with
    | some command => do
      let (action, below) ← command rest
      return (action, json || below)
    | none => .error (helpAbout (topic ++ rest))
  | none, some action => return (action, json)
  | none, none => .error .misuse

/-- The action of a run; at most one scope may be asked for. -/
def runAction (given : Given) : Except Refusal Action :=
  match RunScope.names.filter fun (name, _) => given.flags.contains name with
  | [] => .ok (.run .preflight (fileScope given))
  | [(_, scope)] => .ok (.run scope (fileScope given))
  | _ => .error .misuse

/-- The unit that is named, unless all are asked for; both together make no sense. -/
def unitAmong (given : Given) : Except Refusal (Option String) :=
  match given.operands, given.flags.contains "all" with
  | _ :: _, true => .error .misuse
  | operands, _ => .ok operands.head?

/-- The action of generating manifests, which has to be told for what. -/
def generateAction (given : Given) : Except Refusal Action := do
  let unit ← unitAmong given
  if unit.isSome || given.flags.contains "all" then return .generate unit else .error .misuse

/-- The action of checking units. -/
def checkAction (given : Given) : Except Refusal Action := do
  return .check (← unitAmong given) (given.flags.contains "expire")

/-- The action of showing a manifest. -/
def showAction (given : Given) : Except Refusal Action :=
  match given.operands with
  | unit :: _ => .ok (.showManifest unit)
  | [] => .error .misuse

/-- The action of a scan. -/
def scanAction (given : Given) : Except Refusal Action :=
  .ok (.scan given.operands (given.values.map (·.2)) (fileScope given)
    (given.flags.contains "fix"))

/-- The commands on manifests. -/
def manifestBranch : Commands := [
  ("generate", readLeaf [flag "all"] (some 1) generateAction),
  ("check", readLeaf [flag "all", flag "expire"] (some 1) checkAction),
  ("show", readLeaf [] (some 1) showAction)]

/-- The commands on the marker. -/
def baselineBranch : Commands := [
  ("mark", readLeaf [] (some 0) fun _ => .ok .markBaseline),
  ("show", readLeaf [] (some 0) fun _ => .ok .showBaseline)]

/-- All commands. -/
def branches : Commands := [
  ("init", readLeaf [flag "force" (some 'f')] (some 0) fun given =>
    .ok (.init (given.flags.contains "force"))),
  ("run", readLeaf (flag "changed-only" :: RunScope.names.map fun (name, _) => flag name) (some 0)
    runAction),
  ("scan", readLeaf [⟨"rule", some 'r', .value⟩, flag "changed-only", flag "fix"] none scanAction),
  ("manifest", readBranch ["manifest"] [] manifestBranch none),
  ("scope", readLeaf [flag "changed-only"] (some 0) fun given =>
    .ok (.showScope (given.flags.contains "changed-only"))),
  ("baseline", readBranch ["baseline"] [] baselineBranch none),
  ("version", readLeaf [] (some 0) fun _ => .ok .version)]

/-- What the arguments ask for. -/
def ofArguments (arguments : List String) : Except Refusal Request := do
  let versionOption : OptionSpec := ⟨"version", some 'V', .version⟩
  let (action, json) ← readBranch [] [versionOption] branches (some .welcome) arguments
  return ⟨action, json⟩

end Request

end QualityGate.Command
