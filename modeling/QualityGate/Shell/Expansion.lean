import QualityGate.Shell.Programs
import QualityGate.Wildcard

/-!
# What words stand for

A word becomes any number of *fields*.  Parameters and the outputs of scripts are put in; what they
put in without quotes is split, as a rule at blanks; and a field with an unquoted wildcard becomes
the paths that it matches, if there are any.
-/

namespace QualityGate.Shell

open QualityGate.Text (Bytes)
open ShellM

/-- How the output of a script within a word is found. -/
abbrev OutputOf := List Char → ShellM Bytes

/-- A part of an expanded word. -/
inductive Part where
  | chars (quoted : Bool) (text : List Char)
  /-- The end of a field. -/
  | boundary
  deriving DecidableEq, Repr

/-- The text of parts, with a blank between fields. -/
def Part.text (parts : List Part) : String :=
  String.ofList (parts.flatMap fun part => match part with
    | .chars _ text => text
    | .boundary => [' '])

/-- A field; every character knows whether it was quoted. -/
abbrev Field := List (Char × Bool)

/-- The characters at which fields are split. -/
def separators : ShellM (List Char) := do
  return (((← get).bindings.lookup "IFS").getD " \t\n").toList

/-- The parts of a value that is split at some characters, of which blanks count once. -/
def splitParts (separators value : List Char) : List Part :=
  (value.splitBy fun a b => separators.contains a == separators.contains b).flatMap fun piece =>
    if ! piece.any separators.contains then [.chars false piece]
    else match piece.countP (! Text.isBlank ·) with
      | 0 => [.boundary]
      | count => (List.replicate count [.chars false [], .boundary]).flatten

/-- The parts of a value. -/
def valueParts (separators : List Char) (quoted : Bool) (value : List Char) : List Part :=
  if quoted then [.chars true value] else splitParts separators value

/-- The parts of an operand, whose texts are split, too. -/
def operandParts (separators : List Char) (quoted : Bool) (parts : List Part) : List Part :=
  if quoted then parts
  else parts.flatMap fun part => match part with
    | .chars false text => splitParts separators text
    | part => [part]

/-- The fields that parts make up, where the one that has begun may be given. -/
def fieldsOf : Option Field → List Part → List Field
  | none, [] => []
  | some field, [] => [field]
  | none, .boundary :: rest => fieldsOf none rest
  | some field, .boundary :: rest => field :: fieldsOf none rest
  | begun, .chars quoted text :: rest =>
    fieldsOf (some (begun.getD [] ++ text.map (·, quoted))) rest

/-- The text of a field. -/
def Field.text (field : Field) : String := String.ofList (field.map (·.1))

/-- The pattern of a field, in which quoted characters stand for themselves. -/
def Field.pattern (field : Field) : List Wildcard.Piece :=
  Wildcard.ofText (field.flatMap fun (c, quoted) =>
    if quoted && "*?[]\\!^-".contains c then ['\\', c] else [c])

/-- Whether a pattern matches a text. -/
def patternMatches (pattern : List Wildcard.Piece) (text : List Char) : Bool :=
  Wildcard.fits (fun _ => true) pattern text

/-- The paths that a field matches in a directory, or the field itself. -/
def Field.paths (disk : Disk) (directory : String) (field : Field) : List String :=
  if ! field.any (fun (c, quoted) => ! quoted && "*?[".contains c) then [field.text]
  else
    let absolute := field.head?.any (·.1 == '/')
    let hidden := field.head?.any (·.1 == '.')
    let found := match disk.find (if absolute then "/" else directory) with
      | .ok (location, _) => (disk.below location).filterMap fun (names, _) =>
        let path := (if absolute then "/" else "") ++ "/".intercalate names
        if Wildcard.fitsPath field.pattern path.toList
            && (hidden || names.all (! ·.startsWith ".")) then some path else none
      | .error _ => []
    if found.isEmpty then [field.text] else Text.sorted found

/-- The value of a parameter, if it is set. -/
def State.parameter? (state : State) (name : String) : Option String :=
  match name with
  | "?" => some (toString state.status)
  | "#" => some (toString state.arguments.length)
  | "$" => some (toString state.process)
  | "0" => some state.name
  | "@" | "*" =>
    if state.arguments.isEmpty then none else some (" ".intercalate state.arguments)
  | "-" => some (String.ofList ((if state.stopsOnFailure then ['e'] else [])
      ++ (if state.stopsOnUnset then ['u'] else []) ++ if state.showsCommands then ['x'] else []))
  | "PWD" => some state.directory
  | _ =>
    match name.toNat? with
    | some place => state.arguments[place - 1]?
    | none => state.bindings.lookup name

/-- The value of a parameter that has to be set where the shell stops otherwise. -/
def parameterValue (name : String) : ShellM String := do
  let state ← get
  match state.parameter? name with
  | some value => return value
  | none =>
    if state.stopsOnUnset && ! ["@", "*", "!"].contains name then stop s!"{name}: parameter not set"
    else return ""

/-- The shortest or the longest start of a text that a pattern matches taken away. -/
def dropFront (longest : Bool) (pattern : List Wildcard.Piece) (text : List Char) : List Char :=
  let lengths := (List.range (text.length + 1)).filter fun n =>
    patternMatches pattern (text.take n)
  text.drop ((if longest then lengths.getLast? else lengths.head?).getD 0)

/-- The shortest or the longest end of a text that a pattern matches taken away. -/
def dropBack (longest : Bool) (pattern : List Wildcard.Piece) (text : List Char) : List Char :=
  let lengths := (List.range (text.length + 1)).filter fun n =>
    patternMatches pattern (text.drop (text.length - n))
  text.take (text.length - (if longest then lengths.getLast? else lengths.head?).getD 0)

/-- The value of an arithmetic expression, which may set a variable. -/
def arithmeticValue (text : List Char) : ShellM Int := do
  let bindings := (← get).bindings
  let value := fun name => (Format.number ((bindings.lookup name).getD "0")).1
  match Arithmetic.assigned value text with
  | .ok (number, name) =>
    name.forM fun name => setVariable name (toString number)
    return number
  | .error fault =>
    stop ("arithmetic expression: " ++ fault.message ++ ": \"" ++ String.ofList text ++ "\"")

/-- What is said about a parameter that has to be set. -/
def unsetNotice (operator : String) : String :=
  if operator.startsWith ":" then "parameter not set or null" else "parameter not set"

/-- The word that an operand stands for. -/
def operandWord (quoted : Bool) (operand : List Char) : ShellM Word := do
  let word := if quoted then quotedPieces quotedEscapes (operand.length + 1) operand
    else (wordAt (fun _ => false) (operand.length + 1) operand).map (·.1)
  match word with
  | .ok word => return word
  | .error fault => stop fault.message

mutual

/-- The parts of a word whose values are split at some characters. -/
def wordParts (outputOf : OutputOf) (separators : List Char) : Nat → Word → ShellM (List Part)
  | 0, _ => return []
  | _, [] => return []
  | fuel + 1, piece :: rest => do
    return (← pieceParts outputOf separators fuel piece)
      ++ (← wordParts outputOf separators fuel rest)

/-- The parts of a piece. -/
def pieceParts (outputOf : OutputOf) (separators : List Char) : Nat → Piece → ShellM (List Part)
  | 0, _ => return []
  | _, .text quoted text => return [.chars quoted text]
  | _, .parameter true "@" => do
    return ((← get).arguments.map fun argument => Part.chars true argument.toList).intersperse
      .boundary
  | _, .parameter false "@" | _, .parameter false "*" => do
    return (((← get).arguments.map fun argument => splitParts separators argument.toList).intersperse
      [.boundary]).flatten
  | _, .parameter quoted name => do
    return valueParts separators quoted (← parameterValue name).toList
  | fuel + 1, .adjusted quoted name operator operand => do
    let value? := (← get).parameter? name
    match operator with
    | ":-" | "-" | ":=" | "=" | ":+" | "+" | ":?" | "?" =>
      let isUnset := if operator.startsWith ":" then (value?.getD "").isEmpty else value?.isNone
      if isUnset == operator.endsWith "+" then
        if operator.endsWith "+" then return []
        else return valueParts separators quoted (value?.getD "").toList
      else
        let parts ← wordParts outputOf separators fuel (← operandWord quoted operand)
        if operator.endsWith "?" then
          let notice := if operand.isEmpty then unsetNotice operator else Part.text parts
          stop s!"{name}: {notice}"
        else if operator.endsWith "=" then
          setVariable name (Part.text parts)
          return valueParts separators quoted (Part.text parts).toList
        else return operandParts separators quoted parts
    | _ =>
      let value := (← parameterValue name).toList
      let parts ← wordParts outputOf [] fuel (← operandWord false operand)
      let pattern := Field.pattern (fieldsOf none parts).flatten
      return valueParts separators quoted <| match operator with
        | "length" => (toString (Text.Utf8.encode value).length).toList
        | "#" => dropFront false pattern value
        | "##" => dropFront true pattern value
        | "%" => dropBack false pattern value
        | _ => dropBack true pattern value
  | _, .output quoted script => do
    let text := Text.Utf8.decodeLossy (← outputOf script)
    return valueParts separators quoted (Text.dropWhileEnd (· == '\n') text)
  | fuel + 1, .arithmetic quoted expression => do
    let parts ← wordParts outputOf [] fuel (← operandWord true expression)
    let value ← arithmeticValue (Part.text parts).toList
    return valueParts separators quoted (toString value).toList

end

/-- The number of nested words that are looked into. -/
def nestingLimit : Nat := 10000

/-- A word whose start may stand for the home directory. -/
def homeWord : Word → ShellM Word
  | .text false ('~' :: rest) :: word => do
    if rest.head?.all (· == '/') && (! rest.isEmpty || word.isEmpty) then
      return .text true (← variableValue "HOME").toList :: .text false rest :: word
    else return .text false ('~' :: rest) :: word
  | word => return word

/-- The fields of a word. -/
def wordFields (outputOf : OutputOf) (word : Word) : ShellM (List Field) := do
  let parts ← wordParts outputOf (← separators) nestingLimit (← homeWord word)
  if word.any (· matches .parameter true "@") && parts.all (· == .chars true []) then return []
  else return fieldsOf none parts

/-- What a list of words stands for. -/
def expand (outputOf : OutputOf) (words : List Word) : ShellM (List String) := do
  let fields ← words.mapM (wordFields outputOf)
  let state ← get
  return fields.flatten.flatMap (Field.paths state.disk state.directory)

/-- What a word stands for that is never more than one text. -/
def expandOne (outputOf : OutputOf) (word : Word) : ShellM String := do
  return Part.text (← wordParts outputOf [] nestingLimit (← homeWord word))

end QualityGate.Shell
