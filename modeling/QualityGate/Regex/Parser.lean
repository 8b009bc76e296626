import QualityGate.Regex.Expr
import QualityGate.Text.Hexadecimal
import QualityGate.Unicode.Property

/-!
# Reading patterns

The pattern language: literals, escapes, classes with nested sets and set operations, groups,
flags, alternatives, and repetitions.  There are no look-arounds and no back references, and every
escape that has no meaning is an error, so that a pattern never means something else than it says.

Flags are resolved while reading.  A flag set in a group holds for the rest of the group.

A pattern may only be nested so deeply.  Groups, repetitions and classes are a level each, and so
are parts that stand side by side: in a sequence, as alternatives, or in a class.

Reading fails without saying why, because the text of that message is not part of any answer.
-/

namespace QualityGate.Regex

open QualityGate.Unicode
open QualityGate.Text (isBlank hexValue?)

/-- The flags of a pattern. -/
structure Flags where
  /-- `i`: letters match both cases. -/
  ignoreCase : Bool := false
  /-- `m`: `^` and `$` also match at line ends. -/
  multiLine : Bool := false
  /-- `s`: `.` also matches a newline. -/
  dotNewline : Bool := false
  /-- `U`: repetitions are lazy, and greedy with a question mark. -/
  swapGreed : Bool := false
  /-- `u`: classes are those of Unicode rather than ASCII. -/
  unicode : Bool := true
  /-- `R`: a carriage return before a newline belongs to the line end. -/
  crlf : Bool := false
  /-- `x`: blanks and comments in the pattern are skipped. -/
  skipBlank : Bool := false
  deriving DecidableEq, Repr

/-- Where reading stands. -/
structure Cursor where
  /-- What is left of the pattern. -/
  rest : List Char
  flags : Flags
  /-- The number of the next group. -/
  nextGroup : Nat
  /-- The named groups so far. -/
  names : List (String × Nat)

/-- A reader of a part of the pattern. -/
abbrev Reader := StateT Cursor Option

namespace Reader

/-- The pattern cannot be read. -/
def fail : Reader α := fun _ => none

/-- Refuse unless a condition holds. -/
def ensure (condition : Bool) : Reader Unit := if condition then pure () else fail

/-- What is left of the pattern. -/
def rest : Reader (List Char) := return (← get).rest

/-- Go on from here. -/
def setRest (rest : List Char) : Reader Unit := modify fun s => { s with rest := rest }

/-- The flags that hold here. -/
def flags : Reader Flags := return (← get).flags

/-- Let these flags hold from here on. -/
def setFlags (flags : Flags) : Reader Unit := modify fun s => { s with flags := flags }

/-- The next character, which stays. -/
def peek : Reader (Option Char) := return (← rest).head?

/-- The next character, which has to exist. -/
def take : Reader Char := do
  match ← rest with
  | [] => fail
  | c :: rest => setRest rest; pure c

/-- What is left after this text, if it comes next. -/
def takeText? (text : String) : Reader Bool := do
  match Text.stripPrefix? text.toList (← rest) with
  | some rest => setRest rest; pure true
  | none => pure false

/-- The text after the blanks and comments that the flag `x` skips. -/
def dropBlanks : Nat → List Char → List Char
  | 0, text => text
  | _, [] => []
  | fuel + 1, c :: text =>
    if isBlank c then dropBlanks fuel text
    else if c = '#' then dropBlanks fuel (text.dropWhile (· ≠ '\n'))
    else c :: text

/-- The text as the flags let it be seen. -/
def visible (flags : Flags) (text : List Char) : List Char :=
  if flags.skipBlank then dropBlanks (text.length + 1) text else text

/-- Skip the blanks and comments that the flags let be skipped. -/
def skip : Reader Unit := do setRest (visible (← flags) (← rest))

/-- The next character; then skip. -/
def takeSkip : Reader Char := do
  let c ← take
  skip
  pure c

/-- Refuse at the end of the pattern. -/
def more : Reader Unit := do ensure (← peek).isSome

end Reader

open Reader

/-- Characters with a meaning of their own, which an escape takes away. -/
def isMeta (c : Char) : Bool :=
  c ∈ ['\\', '.', '+', '*', '?', '(', ')', '|', '[', ']', '{', '}', '^', '$', '#', '&', '-', '~']

/-- The pattern that matches this text literally. -/
def escape (text : List Char) : List Char :=
  text.flatMap fun c => if isMeta c then ['\\', c] else [c]

/-- The ASCII characters that an escape leaves as they are: all but letters, digits and angles. -/
def isPlainEscape (c : Char) : Bool :=
  c.toNat < 0x80 && !c.isAlphanum && c != '<' && c != '>'

/-! ## Nesting -/

/-- What a part of a pattern denotes, and how deeply the part is nested as it is written. -/
structure Nested (α : Type) where
  value : α
  nesting : Nat := 0

/-- How deeply a pattern may be nested. -/
def nestingLimit : Nat := 250

/-- How deeply parts are nested that stand side by side.  They share a level, which one part alone
does without. -/
def sharedNesting : List Nat → Nat
  | [] => 0
  | [nesting] => nesting
  | nestings => nestings.foldr max 0 + 1

/-! ## Escapes -/

/-- What an escape denotes. -/
inductive Escape where
  | char (c : Char)
  /-- A character given by two hexadecimal digits, which is a byte where classes are ASCII. -/
  | byte (c : Char)
  | chars (set : CharSet)
  | look (kind : Look)

/-- The character with a code point, which may not be a surrogate. -/
def charOf? (n : Nat) : Option Char :=
  if n < 0xD800 ∨ (0xDFFF < n ∧ n ≤ 0x10FFFF) then some (Char.ofNat n) else none

/-- A fixed number of hexadecimal digits. -/
def hexDigits : Nat → Nat → Reader Nat
  | 0, acc => pure acc
  | n + 1, acc => do
    match hexValue? (← takeSkip) with
    | some d => hexDigits n (acc * 16 + d)
    | none => fail

/-- Hexadecimal digits up to a closing brace; the first argument bounds their number. -/
def hexBraced : Nat → Option Nat → Reader Nat
  | 0, _ => fail
  | fuel + 1, acc => do
    let c ← takeSkip
    if c = '}' then
      match acc with
      | some n => pure n
      | none => fail
    else match hexValue? c with
      | some d => hexBraced fuel (some (acc.getD 0 * 16 + d))
      | none => fail

/-- The rest of an escape that gives a code point. -/
def hexEscape (digits : Nat) : Reader Escape := do
  skip
  if (← peek) = some '{' then
    let _ ← takeSkip
    match charOf? (← hexBraced ((← rest).length + 1) none) with
    | some c => pure (.char c)
    | none => fail
  else
    match charOf? (← hexDigits digits 0) with
    | some c => pure (if digits = 2 then .byte c else .char c)
    | none => fail

/-- The name between braces. -/
def braced : Nat → List Char → Reader (List Char)
  | 0, _ => fail
  | fuel + 1, acc => do
    let c ← takeSkip
    if c = '}' then pure acc.reverse else braced fuel (c :: acc)

/-- A set, closed under case where case is ignored, and then its complement if asked for. -/
def foldedSet (flags : Flags) (negated : Bool) (set : CharSet) : CharSet :=
  let set := if flags.ignoreCase then
    (if flags.unicode then set.caseClosure else set.asciiCaseClosure) else set
  set.negatedIf negated

/-- The class that a name between braces denotes: a single name, or a property and its value.  The
property may be denied instead, which is the first component. -/
def namedClass? (name : List Char) : Option (Bool × CharSet) :=
  match Text.cutAt? ['!', '='] name with
  | some (property, value) => (classByValue? property value).map (true, ·)
  | none =>
    match (Text.cutAt? [':'] name).or (Text.cutAt? ['='] name) with
    | some (property, value) => (classByValue? property value).map (false, ·)
    | none => (classByName? name).map (false, ·)

/-- The rest of an escape that names a Unicode class. -/
def unicodeClass (negated : Bool) : Reader Escape := do
  skip
  ensure (← flags).unicode
  let c ← take
  let named ← if c = '{' then do
      skip
      pure (namedClass? (← braced ((← rest).length + 1) []))
    else do
      ensure (c ≠ '\\')
      skip
      pure ((classByName? [c]).map (false, ·))
  match named with
  | some (inner, set) => pure (.chars (foldedSet (← flags) (negated != inner) set))
  | none => fail

/-- The decimal digits, white space, or word characters. -/
def perlClass (flags : Flags) (letter : Char) : CharSet :=
  if flags.unicode then
    if letter = 'd' then category "Nd" else if letter = 's' then whiteSpace else wordChars
  else if letter = 'd' then ⟨[(48, 57)]⟩
  else if letter = 's' then ⟨[(9, 13), (32, 32)]⟩
  else ⟨[(48, 57), (65, 90), (95, 95), (97, 122)]⟩

/-- A character of the name of a word boundary. -/
def isBoundaryChar (c : Char) : Bool := c.isAlpha || c == '-'

/-- The name of a word boundary up to its closing brace. -/
def boundaryName : Nat → List Char → Reader (List Char)
  | 0, _ => fail
  | fuel + 1, acc => do
    let c ← takeSkip
    if c = '}' then pure acc.reverse
    else
      ensure (isBoundaryChar c)
      boundaryName fuel (c :: acc)

/-- The kind of word boundary between braces; nothing if the brace begins a repetition. -/
def boundaryKind : Reader (Option Look) := do
  let start ← rest
  let _ ← takeSkip
  match ← peek with
  | none => fail
  | some c =>
    if isBoundaryChar c then
      match String.ofList (← boundaryName ((← rest).length + 1) []) with
      | "start" => pure (some .wordStart)
      | "end" => pure (some .wordEnd)
      | "start-half" => pure (some .wordStartHalf)
      | "end-half" => pure (some .wordEndHalf)
      | _ => fail
    else
      setRest start
      pure none

/-- An escape, after its backslash. -/
def escapeSequence : Reader Escape := do
  let c ← take
  if c.isDigit then fail
  else if c = 'x' then hexEscape 2
  else if c = 'u' then hexEscape 4
  else if c = 'U' then hexEscape 8
  else if c = 'p' then unicodeClass false
  else if c = 'P' then unicodeClass true
  else if c ∈ ['d', 's', 'w'] then return .chars (perlClass (← flags) c)
  else if c ∈ ['D', 'S', 'W'] then return .chars (perlClass (← flags) c.toLower).complement
  else if isMeta c || isPlainEscape c then pure (.char c)
  else match c with
    | 'a' => pure (.char '\x07')
    | 'f' => pure (.char '\x0c')
    | 't' => pure (.char '\t')
    | 'n' => pure (.char '\n')
    | 'r' => pure (.char '\r')
    | 'v' => pure (.char '\x0b')
    | 'A' => pure (.look .textStart)
    | 'z' => pure (.look .textEnd)
    | 'B' => pure (.look .notWordBoundary)
    | '<' => pure (.look .wordStart)
    | '>' => pure (.look .wordEnd)
    | 'b' =>
      if (← peek) = some '{' then return .look ((← boundaryKind).getD .wordBoundary)
      else pure (.look .wordBoundary)
    | _ => fail

/-! ## Classes -/

/-- The operations between sets in a class. -/
inductive SetOp where
  | inter
  | diff
  | symmDiff

/-- A set between two others. -/
def SetOp.apply : SetOp → CharSet → CharSet → CharSet
  | .inter, left, right => left.inter right
  | .diff, left, right => left.diff right
  | .symmDiff, left, right => left.symmDiff right

/-- Apply a pending operation. -/
def applyOp (flags : Flags) :
    Option (SetOp × Nested CharSet) → Nested CharSet → Nested CharSet
  | none, right => right
  | some (op, left), right => {
      value := op.apply (foldedSet flags false left.value) (foldedSet flags false right.value)
      nesting := max left.nesting right.nesting + 1 }

/-- The union of the items of a class that were read, the last one first. -/
def classUnion (items : List (Nested CharSet)) : Nested CharSet where
  value := items.foldr (fun item set => set.union item.value) .empty
  nesting := sharedNesting (items.map (·.nesting))

/-- The ASCII classes by name. -/
def asciiClasses : List (String × List (Nat × Nat)) := [
  ("alnum", [(48, 57), (65, 90), (97, 122)]), ("alpha", [(65, 90), (97, 122)]),
  ("ascii", [(0, 127)]), ("blank", [(9, 9), (32, 32)]), ("cntrl", [(0, 31), (127, 127)]),
  ("digit", [(48, 57)]), ("graph", [(33, 126)]), ("lower", [(97, 122)]), ("print", [(32, 126)]),
  ("punct", [(33, 47), (58, 64), (91, 96), (123, 126)]), ("space", [(9, 13), (32, 32)]),
  ("upper", [(65, 90)]), ("word", [(48, 57), (65, 90), (95, 95), (97, 122)]),
  ("xdigit", [(48, 57), (65, 70), (97, 102)])]

/-- A class such as `[:alpha:]` at the start of a text, and what follows it. -/
def asciiClass? (text : List Char) : Option (Bool × CharSet × List Char) := do
  let text ← Text.stripPrefix? ['[', ':'] text
  let (negated, text) := match text with
    | '^' :: text => (true, text)
    | text => (false, text)
  let name := text.takeWhile (· ≠ ':')
  let rest ← Text.stripPrefix? [':', ']'] (text.drop name.length)
  let ranges ← asciiClasses.lookup (String.ofList name)
  some (negated, ⟨ranges⟩, rest)

/-- One item of a class: a character, or a set. -/
def classItem : Reader Escape := do
  match ← take with
  | '\\' => escapeSequence
  | c => pure (.char c)

/-- The character that an end of a range denotes. -/
def rangeEnd (flags : Flags) : Escape → Reader Char
  | .char c => do
    ensure (flags.unicode || c.toNat < 0x80)
    pure c
  | .byte c => pure c
  | _ => fail

/-- The set of one item. -/
def itemSet (flags : Flags) : Escape → Reader CharSet
  | .chars set => pure set
  | .look _ => fail
  | item => return .single (← rangeEnd flags item)

/-- An item or a range. -/
def classRange : Reader CharSet := do
  let flags ← flags
  let first ← classItem
  skip
  more
  let afterDash := visible flags ((← rest).drop 1)
  if (← peek) ≠ some '-' ∨ afterDash.head? = some ']' ∨ afterDash.head? = some '-' then
    itemSet flags first
  else
    let _ ← takeSkip
    more
    let last ← classItem
    let lo ← rangeEnd flags first
    let hi ← rangeEnd flags last
    ensure (lo ≤ hi)
    pure ⟨[(lo.toNat, hi.toNat)]⟩

/-- The hyphens at the start of a class, which stand for themselves. -/
def leadingHyphens : Nat → List (Nested CharSet) → Reader (List (Nested CharSet))
  | 0, items => pure items
  | fuel + 1, items => do
    if (← peek) = some '-' then
      let _ ← takeSkip
      more
      leadingHyphens fuel ({ value := .single '-' } :: items)
    else pure items

mutual

/-- A class, after its opening bracket. -/
def bracketed : Nat → Reader (Nested CharSet)
  | 0 => fail
  | fuel + 1 => do
    skip
    more
    let negated := (← peek) = some '^'
    if negated then
      let _ ← takeSkip
      more
    let start ← leadingHyphens ((← rest).length + 1) []
    let start ← if start.isEmpty ∧ (← peek) = some ']' then do
        let _ ← takeSkip
        more
        pure [{ value := .single ']' }]
      else pure start
    let body ← classBody fuel none start
    return ⟨foldedSet (← flags) negated body.value, body.nesting + 1⟩

/-- The items of a class up to its closing bracket.  `items` are those since the last operation,
backwards. -/
def classBody : Nat → Option (SetOp × Nested CharSet) → List (Nested CharSet) →
    Reader (Nested CharSet)
  | 0, _, _ => fail
  | fuel + 1, pending, items => do
    skip
    let flags ← flags
    match ← rest with
    | [] => fail
    | '[' :: inner =>
      match asciiClass? ('[' :: inner) with
      | some (negated, ascii, rest) =>
        setRest rest
        classBody fuel pending ({ value := foldedSet flags negated ascii } :: items)
      | none =>
        setRest inner
        let nested ← bracketed fuel
        classBody fuel pending (nested :: items)
    | ']' :: rest =>
      setRest rest
      pure (applyOp flags pending (classUnion items))
    | '&' :: '&' :: rest =>
      setRest rest
      classBody fuel (some (.inter, applyOp flags pending (classUnion items))) []
    | '-' :: '-' :: rest =>
      setRest rest
      classBody fuel (some (.diff, applyOp flags pending (classUnion items))) []
    | '~' :: '~' :: rest =>
      setRest rest
      classBody fuel (some (.symmDiff, applyOp flags pending (classUnion items))) []
    | _ =>
      let item ← classRange
      classBody fuel pending ({ value := item } :: items)

end

/-! ## Groups and flags -/

/-- Switch a flag on or off. -/
def setFlag (flags : Flags) (on : Bool) : Char → Option Flags
  | 'i' => some { flags with ignoreCase := on }
  | 'm' => some { flags with multiLine := on }
  | 's' => some { flags with dotNewline := on }
  | 'U' => some { flags with swapGreed := on }
  | 'u' => some { flags with unicode := on }
  | 'R' => some { flags with crlf := on }
  | 'x' => some { flags with skipBlank := on }
  | _ => none

/-- Flags up to a colon or a closing parenthesis: the flags that then hold, and which of the two
ended them.  A flag may be written once, and a minus sign has to be followed by a flag. -/
def flagList : Nat → List Char → Flags → Reader (Flags × List Char × Char)
  | 0, _, _ => fail
  | fuel + 1, seen, flags => do
    let c ← take
    if c = ':' ∨ c = ')' then
      ensure (seen.head? ≠ some '-')
      pure (flags, seen, c)
    else
      ensure (! seen.contains c)
      if c = '-' then flagList fuel ('-' :: seen) flags
      else match setFlag flags (! seen.contains '-') c with
        | some flags => flagList fuel (c :: seen) flags
        | none => fail

/-- Whether a character may stand in the name of a group. -/
def isNameChar (first : Bool) (c : Char) : Bool :=
  c == '_' || alphabetic.contains c
    || (!first && (c == '.' || c == '[' || c == ']'
      || (categories ["Nd", "Nl", "No"]).contains c))

/-- The name of a group up to its closing angle. -/
def groupName : Nat → List Char → Reader (List Char)
  | 0, _ => fail
  | fuel + 1, acc => do
    let c ← take
    if c = '>' then
      ensure (! acc.isEmpty)
      pure acc.reverse
    else
      ensure (isNameChar acc.isEmpty c)
      groupName fuel (c :: acc)

/-- The number of a new group. -/
def newGroup : Reader Nat := do
  let index := (← get).nextGroup
  modify fun s => { s with nextGroup := index + 1 }
  pure index

/-- What an opening parenthesis begins. -/
inductive Opening where
  /-- Flags for the rest of the enclosing group. -/
  | flags (flags : Flags)
  /-- A group with these flags, remembered under a number or not. -/
  | group (index : Option Nat) (flags : Flags)

/-- What follows an opening parenthesis, up to the body of the group. -/
def opening : Reader Opening := do
  skip
  let flags ← flags
  for lookAround in ["?=", "?!", "?<=", "?<!"] do
    if ← takeText? lookAround then fail
  if (← takeText? "?P<") || (← takeText? "?<") then
    let index ← newGroup
    let name := String.ofList (← groupName ((← rest).length + 1) [])
    ensure (((← get).names.lookup name).isNone)
    modify fun s => { s with names := (name, index) :: s.names }
    pure (.group (some index) flags)
  else if ← takeText? "?" then
    let (flags, seen, ending) ← flagList ((← rest).length + 1) [] flags
    if ending = ')' then
      ensure (! seen.isEmpty)
      pure (.flags flags)
    else pure (.group none flags)
  else return .group (some (← newGroup)) flags

/-! ## Repetitions -/

/-- A decimal number with blanks around it, `none` if there are no digits. -/
def decimal : Reader (Option Nat) := do
  setRest ((← rest).dropWhile isBlank)
  let text := visible (← flags) (← rest)
  let digits := text.takeWhile Char.isDigit
  setRest ((text.drop digits.length).dropWhile isBlank)
  skip
  if digits.isEmpty then pure none
  else
    let value := digits.foldl (fun acc d => acc * 10 + (d.toNat - 48)) 0
    ensure (value < UInt32.size)
    pure (some value)

/-- The bounds of a counted repetition, after its opening brace. -/
def counts : Reader (Nat × Option Nat) := do
  skip
  more
  let first ← decimal
  more
  if (← peek) = some ',' then
    let _ ← takeSkip
    more
    let some least := first | fail
    if (← peek) = some '}' then
      let _ ← take
      pure (least, none)
    else
      let some most ← decimal | fail
      ensure ((← peek) = some '}')
      let _ ← take
      ensure (least ≤ most)
      pure (least, some most)
  else
    let some exact := first | fail
    ensure ((← peek) = some '}')
    let _ ← take
    pure (exact, some exact)

/-- Whether a question mark makes the repetition lazy. -/
def lazyMark : Reader Bool := takeText? "?"

/-! ## Patterns -/

/-- The set that a literal character denotes. -/
def literal (flags : Flags) (c : Char) : Expr :=
  .set (foldedSet flags false (.single c))

/-- A set outside a class; where classes are ASCII it has to be ASCII itself. -/
def setExpr (flags : Flags) (set : CharSet) : Reader Expr := do
  ensure (flags.unicode || set.isAscii)
  pure (.set set)

/-- A condition on a position, with the word characters that the flags ask for. -/
def lookExpr (flags : Flags) (kind : Look) : Expr := .look kind (perlClass flags 'w')

/-- The set that the dot denotes. -/
def dotSet (flags : Flags) : CharSet :=
  if flags.dotNewline then .full
  else if flags.crlf then (CharSet.complement ⟨[(10, 10), (13, 13)]⟩)
  else (CharSet.complement ⟨[(10, 10)]⟩)

/-- The condition that `^` denotes. -/
def caretLook (flags : Flags) : Look :=
  if flags.multiLine then (if flags.crlf then .lineStartCrlf else .lineStart) else .textStart

/-- The condition that `$` denotes. -/
def dollarLook (flags : Flags) : Look :=
  if flags.multiLine then (if flags.crlf then .lineEndCrlf else .lineEnd) else .textEnd

/-- One character, escape, or condition. -/
def primitive : Reader Expr := do
  let flags ← flags
  match ← take with
  | '\\' =>
    match ← escapeSequence with
    | .char c => pure (literal flags c)
    | .byte c =>
      ensure (flags.unicode || c.toNat < 0x80)
      pure (literal flags c)
    | .chars set => setExpr flags set
    | .look kind => pure (lookExpr flags kind)
  | '.' => setExpr flags (dotSet flags)
  | '^' => pure (lookExpr flags (caretLook flags))
  | '$' => pure (lookExpr flags (dollarLook flags))
  | c => pure (literal flags c)

/-- An item of a sequence; flags take no characters and cannot be repeated. -/
inductive Item where
  | part (read : Nested Expr)
  | flags

namespace Item

/-- The expression of an item. -/
def toExpr : Item → Expr
  | part read => read.value
  | flags => .empty

/-- How deeply an item is nested. -/
def nesting : Item → Nat
  | part read => read.nesting
  | flags => 0

end Item

/-- The sequence of items that were read, the last one first. -/
def sequence (items : List Item) : Nested Expr where
  value := Expr.seqs (items.reverse.map Item.toExpr)
  nesting := sharedNesting (items.map Item.nesting)

/-- Alternatives that were read, the last one first. -/
def choice (parts : List (Nested Expr)) : Nested Expr where
  value := Expr.alts (parts.reverse.map (·.value))
  nesting := sharedNesting (parts.map (·.nesting))

/-- Repeat the last item. -/
def repeatLast (items : List Item) (bounds : Nat × Option Nat) (isLazy : Bool) :
    Reader (List Item) := do
  match items with
  | .part body :: items =>
    let greedy := (! isLazy) != (← flags).swapGreed
    let repeated := Expr.repeated bounds.1 bounds.2 greedy body.value
    pure (.part ⟨repeated, body.nesting + 1⟩ :: items)
  | _ => fail

/-- Alternatives up to the end of a group or of the pattern.  `items` is the current alternative
and `done` holds the earlier ones, both backwards. -/
def alternatives : Nat → Bool → List Item → List (Nested Expr) → Reader (Nested Expr)
  | 0, _, _, _ => fail
  | fuel + 1, inGroup, items, done => do
    skip
    match ← rest with
    | [] =>
      ensure (! inGroup)
      pure (choice (sequence items :: done))
    | ')' :: rest =>
      ensure inGroup
      setRest rest
      pure (choice (sequence items :: done))
    | '|' :: rest =>
      setRest rest
      alternatives fuel inGroup [] (sequence items :: done)
    | '(' :: rest =>
      setRest rest
      match ← opening with
      | .flags flags =>
        setFlags flags
        alternatives fuel inGroup (.flags :: items) done
      | .group index inner =>
        let outer ← flags
        setFlags inner
        let body ← alternatives fuel true [] []
        setFlags outer
        let e := match index with
          | some index => .group index body.value
          | none => body.value
        alternatives fuel inGroup (.part ⟨e, body.nesting + 1⟩ :: items) done
    | '[' :: rest =>
      setRest rest
      let set ← bracketed fuel
      let e ← setExpr (← flags) set.value
      alternatives fuel inGroup (.part ⟨e, set.nesting⟩ :: items) done
    | '?' :: rest =>
      setRest rest
      let items ← repeatLast items (0, some 1) (← lazyMark)
      alternatives fuel inGroup items done
    | '*' :: rest =>
      setRest rest
      let items ← repeatLast items (0, none) (← lazyMark)
      alternatives fuel inGroup items done
    | '+' :: rest =>
      setRest rest
      let items ← repeatLast items (1, none) (← lazyMark)
      alternatives fuel inGroup items done
    | '{' :: rest =>
      setRest rest
      let bounds ← counts
      skip
      let items ← repeatLast items bounds (← lazyMark)
      alternatives fuel inGroup items done
    | _ =>
      let e ← primitive
      alternatives fuel inGroup (.part { value := e } :: items) done

/-- The expression that a pattern denotes, and its named groups.  A pattern that is nested too
deeply denotes none. -/
def parse? (flags : Flags) (pattern : List Char) : Option (Expr × List (String × Nat)) :=
  let start : Cursor := { rest := pattern, flags := flags, nextGroup := 1, names := [] }
  match (alternatives (2 * pattern.length + 2) false [] []).run start with
  | some (whole, s) =>
    if whole.nesting ≤ nestingLimit then some (whole.value, s.names) else none
  | none => none

end QualityGate.Regex
