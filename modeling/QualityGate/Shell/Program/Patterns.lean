import QualityGate.Regex.Matching
import QualityGate.Shell.Program.Basic

/-!
# Programs for patterns

Programs that look for regular expressions in the lines of a text, or edit lines where one matches.
In a *basic* expression brackets and some operators have their meaning only after a backslash.
-/

namespace QualityGate.Shell.Program

open QualityGate.Text (Bytes)
open ShellM

/-- The characters that are operators in one kind of expression and not in the other. -/
def basicOperators : List Char := "()\x7b\x7d+?|".toList

/-- A basic expression with the operators where other expressions have them. -/
def ofBasic : List Char → List Char
  | '\\' :: c :: rest =>
    (if basicOperators.contains c then [c] else ['\\', c]) ++ ofBasic rest
  | c :: rest => (if basicOperators.contains c then ['\\', c] else [c]) ++ ofBasic rest
  | [] => []

/-- The expression of a pattern. -/
def expressionOf (extended ignoresCase : Bool) (pattern : List Char) : Except Regex.Error Regex :=
  Regex.compile ignoresCase (String.ofList (if extended then pattern else ofBasic pattern))

/-- The text of a line. -/
def lineText (line : Bytes) : List Char := Text.Utf8.decodeLossy (line.filter (· != lineFeed))

/-- Print the lines of one text that match; the answer is their number. -/
def search (regex : Regex) (letters : List Char) (label : String) (bytes : Bytes) :
    ShellM Nat := do
  let lines := (linesOf bytes).zipIdx.filter fun (line, _) =>
    regex.isMatch (lineText line) != letters.contains 'v'
  if letters.contains 'q' then return lines.length
  else if letters.contains 'c' then line (label ++ toString lines.length)
  else for (found, place) in lines do
    let front := label ++ if letters.contains 'n' then s!"{place + 1}:" else ""
    if letters.contains 'o' then
      for piece in regex.findAll (lineText found) do
        line (front ++ String.ofList piece.matched)
    else put (Text.bytesOf front ++ found.filter (· != lineFeed) ++ [lineFeed])
  return lines.length

/-- Print the lines that match a regular expression. -/
def grep : Program := fun arguments => do
  let (given, others) := valuedOptions ['e'] arguments
  let letters := given.map (·.1)
  let (pattern, paths) := match given.lookup 'e' with
    | some pattern => (some pattern, others)
    | none => (others.head?, others.tail)
  match pattern with
  | none =>
    complain "Usage: grep [OPTION]... PATTERNS [FILE]..."
    complain "Try 'grep --help' for more information."
    return 2
  | some pattern =>
    let isFixed := letters.contains 'F'
    let body := if isFixed
      then pattern.toList.flatMap fun c => if c.isAlphanum then [c] else ['\\', c]
      else if letters.contains 'E' then pattern.toList else ofBasic pattern.toList
    let body := if letters.contains 'w' then "\\b(?:".toList ++ body ++ ")\\b".toList
      else if letters.contains 'x' then "^(?:".toList ++ body ++ ")$".toList
      else body
    match expressionOf true (letters.contains 'i') body with
    | .error _ => return 2
    | .ok regex => do
      let mut found := 0
      let mut complete := true
      for path in if paths.isEmpty then ["-"] else paths do
        match ← contentOf (plainly "grep") path with
        | some bytes =>
          let label := if paths.length > 1 && ! letters.contains 'h' then path ++ ":" else ""
          let quiet := if letters.contains 'l' then 'q' :: letters else letters
          let count ← search regex quiet label bytes
          if letters.contains 'l' && count != 0 then line path
          found := found + count
        | none => complete := false
      return if ! complete then 2 else if found = 0 then 1 else 0

/-- The lines that an edit is about. -/
inductive Address where
  | every
  | number (place : Nat)
  | lastLine
  | matching (regex : Regex)

/-- What is done with a line. -/
inductive EditAction where
  | delete
  | print
  | quit
  | substitute (regex : Regex) (replacement : List Char) (everywhere prints : Bool)

/-- An edit of the lines from an address up to another one. -/
structure Edit where
  first : Address
  last : Option Address
  action : EditAction

/-- A text up to a separator that no backslash stands before, and the rest. -/
def untilSeparator (separator : Char) : List Char → Option (List Char × List Char)
  | [] => none
  | '\\' :: c :: rest => do
    let (front, rest) ← untilSeparator separator rest
    return ((if c = separator then [c] else ['\\', c]) ++ front, rest)
  | c :: rest =>
    if c = separator then some ([], rest)
    else (untilSeparator separator rest).map fun (front, rest) => (c :: front, rest)

/-- An address at the start of an edit. -/
def address? (extended : Bool) (text : List Char) : Option (Address × List Char) :=
  match text with
  | '$' :: rest => some (.lastLine, rest)
  | '/' :: rest => do
    let (pattern, rest) ← untilSeparator '/' rest
    let regex ← (expressionOf extended false pattern).toOption
    return (.matching regex, rest)
  | _ =>
    let digits := text.takeWhile Char.isDigit
    if digits.isEmpty then none
    else (String.ofList digits).toNat?.map fun n => (.number n, text.drop digits.length)

/-- The edits of a text. -/
def edits? (extended : Bool) : Nat → List Char → Option (List Edit)
  | 0, _ => none
  | fuel + 1, text => do
    let text := text.dropWhile fun c => c == ' ' || c == ';' || c == '\n'
    if text.isEmpty then return []
    let (first, rest) := (address? extended text).getD (.every, text)
    let (last, rest) := match rest with
      | ',' :: more =>
        match address? extended more with
        | some (last, rest) => (some last, rest)
        | none => (none, rest)
      | _ => (none, rest)
    let (action, rest) ← match rest with
      | 'd' :: rest => some (.delete, rest)
      | 'p' :: rest => some (.print, rest)
      | 'q' :: rest => some (.quit, rest)
      | 's' :: separator :: rest => do
        let (pattern, rest) ← untilSeparator separator rest
        let (replacement, rest) ← untilSeparator separator rest
        let flags := rest.takeWhile Char.isAlpha
        let regex ← (expressionOf extended (flags.contains 'I' || flags.contains 'i')
          pattern).toOption
        some (EditAction.substitute regex replacement (flags.contains 'g') (flags.contains 'p'),
          rest.drop flags.length)
      | _ => none
    return ⟨first, last, action⟩ :: (← edits? extended fuel rest)

/-- A replacement with the parts of a match put in. -/
def replaced (found : Regex.Match) : List Char → List Char
  | '\\' :: 'n' :: rest => '\n' :: replaced found rest
  | '\\' :: c :: rest =>
    (if c.isDigit then (found.group? (c.toNat - 48)).getD [] else [c]) ++ replaced found rest
  | '&' :: rest => found.matched ++ replaced found rest
  | c :: rest => c :: replaced found rest
  | [] => []

/-- A text with some matches replaced, and what is left from a position on. -/
def replacedIn (text replacement : List Char) (position : Nat) : List Regex.Match → List Char
  | [] => text.drop position
  | found :: rest =>
    (text.take found.whole.start).drop position ++ replaced found replacement
      ++ replacedIn text replacement found.whole.stop rest

/-- Whether an address is that of a line. -/
def Address.fits (place : Nat) (isLast : Bool) (text : List Char) : Address → Bool
  | .every => true
  | .number n => place == n
  | .lastLine => isLast
  | .matching regex => regex.isMatch text

/-- A line that is edited. -/
structure EditedLine where
  text : List Char
  printed : List (List Char) := []
  deleted : Bool := false
  quits : Bool := false

/-- Do something with a line. -/
def EditAction.apply (edited : EditedLine) : EditAction → EditedLine
  | .delete => { edited with deleted := true }
  | .print => { edited with printed := edited.printed ++ [edited.text] }
  | .quit => { edited with quits := true }
  | .substitute regex replacement everywhere prints =>
    let found := regex.findAll edited.text
    let text := replacedIn edited.text replacement 0 (if everywhere then found else found.take 1)
    { edited with
      text := text
      printed := edited.printed ++ if prints && ! found.isEmpty then [text] else [] }

/-- The lines of a text after some edits; each edit comes with whether it is within its range. -/
def editLines (silent : Bool) (total : Nat) : List (Edit × Bool) → List (List Char × Nat) →
    List (List Char)
  | _, [] => []
  | edits, (text, index) :: rest =>
    let place := index + 1
    let step := fun (edited, done) ((edit, inside) : Edit × Bool) =>
      let isLast := place == total
      let begins := edit.first.fits place isLast edited.text
      let applies := ! edited.deleted && ! edited.quits && (inside || begins)
      let goesOn := match edit.last with
        | some (.number n) => applies && place < n
        | some last => applies && ! (inside && last.fits place isLast edited.text)
        | none => false
      (if applies then edit.action.apply edited else edited, done ++ [(edit, goesOn)])
    let (edited, edits) := edits.foldl step (({ text := text } : EditedLine), [])
    let shown := edited.printed ++ if silent || edited.deleted then [] else [edited.text]
    shown ++ if edited.quits then [] else editLines silent total edits rest

/-- A text after some edits. -/
def edited (silent : Bool) (edits : List Edit) (bytes : Bytes) : Bytes :=
  let lines := (linesOf bytes).map lineText
  let result := editLines silent lines.length (edits.map fun edit => (edit, false)) lines.zipIdx
  let text := Text.Utf8.encode (result.flatMap (· ++ ['\n']))
  if bytes.getLast? == some lineFeed || result.isEmpty then text else text.dropLast

/-- Edit the lines of texts. -/
def sed : Program := fun arguments => do
  let (given, others) := valuedOptions ['e'] arguments
  let letters := given.map (·.1)
  let scripts := (given.filter (·.1 == 'e')).map (·.2)
  let (scripts, paths) := match scripts, others with
    | [], script :: paths => ([script], paths)
    | scripts, paths => (scripts, paths)
  let script := ("\n".intercalate scripts).toList
  let extended := letters.contains 'E' || letters.contains 'r'
  match edits? extended (script.length + 2) script with
  | none =>
    complain "sed: -e expression #1, char 1: unknown command"
    return 1
  | some edits =>
    let silent := letters.contains 'n'
    let complaint := fun (path : String) => s!"sed: can't read {path}"
    if letters.contains 'i' then
      forEach 2 paths fun path => do
        match ← contentOf complaint path with
        | some bytes =>
          let place ← located path
          changing s!"sed: couldn't edit {path}" fun disk now =>
            disk.write now place (edited silent edits bytes)
        | none => return false
    else
      let (bytes, complete) ← contents complaint paths
      put (edited silent edits bytes)
      return if complete then 0 else 2

end QualityGate.Shell.Program
