import QualityGate.Regex.Matching
import QualityGate.Text.Blank

/-!
# Path globs

A glob selects paths.  It is read in one of three ways, according to the special characters in it.

* Without any it names a file, or a directory together with everything below it.
* With `*` or `?` it is a list of *tokens*.  `**/` stands for any number of whole directories,
  another `**` for any text within a line, a single `*` for any text without a slash, and `?` for
  one character that is no slash.
* With a bracket it is a pattern, since a bracketed set has the syntax and the meaning that sets
  have in regular expressions.

Blanks around a glob and `./` at its start are not part of it, and `./` at the start of a path is
not looked at.
-/

namespace QualityGate

open QualityGate.Text

/-- Why a text is not a glob. -/
inductive GlobError where
  /-- Nothing is left of the text. -/
  | empty
  /-- A bracket is never closed. -/
  | unclosedClass (glob : String)
  /-- The pattern with its sets does not compile. -/
  | badPattern (cause : Regex.Error)
  deriving DecidableEq, Repr

/-- The error as text. -/
def GlobError.message : GlobError → String
  | .empty => "empty glob"
  | .unclosedClass glob => "invalid glob pattern: unclosed character class: " ++ glob
  | .badPattern cause => "invalid glob pattern: " ++ cause.message

namespace Glob

/-- A piece of a glob. -/
inductive Token where
  /-- Any number of directories, each with its slash. -/
  | directories
  /-- Any text without a line break. -/
  | anything
  /-- Any text without a slash. -/
  | withinName
  /-- One character that is no slash. -/
  | one
  /-- This character. -/
  | char (c : Char)
  deriving DecidableEq, Repr

/-- The tokens of a glob without brackets. -/
def tokens : List Char → List Token
  | [] => []
  | '*' :: '*' :: '/' :: rest => .directories :: tokens rest
  | '*' :: '*' :: rest => .anything :: tokens rest
  | '*' :: rest => .withinName :: tokens rest
  | '?' :: rest => .one :: tokens rest
  | c :: rest => .char c :: tokens rest

/-- What may be left of a text after whole directories; `inName` tells that a name has begun. -/
def directoryRests (inName : Bool) : List Char → List (List Char)
  | [] => []
  | c :: rest =>
    if c = '/' then if inName then rest :: directoryRests false rest else []
    else directoryRests true rest

/-- What may be left of a text after characters that satisfy `p`. -/
def restsWhile (p : Char → Bool) : List Char → List (List Char)
  | [] => [[]]
  | c :: rest => (c :: rest) :: if p c then restsWhile p rest else []

/-- What may be left of a text after a token. -/
def Token.rests : Token → List Char → List (List Char)
  | .directories, text => text :: directoryRests false text
  | .anything, text => restsWhile (· ≠ '\n') text
  | .withinName, text => restsWhile (· ≠ '/') text
  | .one, c :: rest => if c = '/' then [] else [rest]
  | .char d, c :: rest => if c = d then [rest] else []
  | .one, [] | .char _, [] => []

/-- What may be left of any of some texts after all tokens. -/
def restsAfter (tokens : List Token) (texts : List (List Char)) : List (List Char) :=
  tokens.foldl (fun texts token => (texts.flatMap token.rests).eraseDups) texts

/-- Whether a path is the named one, or below it within one line. -/
def isWithin (name path : List Char) : Bool :=
  match stripPrefix? name path with
  | some [] => true
  | some ('/' :: below) => below.all (· ≠ '\n')
  | _ => false

/-- A set in brackets up to the first closing bracket, and the rest of the text. -/
def bracketed? : List Char → Option (List Char × List Char)
  | [] => none
  | ']' :: rest => some ([']'], rest)
  | c :: rest => (bracketed? rest).map fun (set, rest) => (c :: set, rest)

/-- The regular expression of a glob with brackets, without its anchors. -/
def expression? : Nat → List Char → Option (List Char)
  | 0, _ => none
  | _, [] => some []
  | fuel + 1, '*' :: '*' :: '/' :: rest => (expression? fuel rest).map ("(?:[^/]+/)*".toList ++ ·)
  | fuel + 1, '*' :: '*' :: rest => (expression? fuel rest).map (".*".toList ++ ·)
  | fuel + 1, '*' :: rest => (expression? fuel rest).map ("[^/]*".toList ++ ·)
  | fuel + 1, '?' :: rest => (expression? fuel rest).map ("[^/]".toList ++ ·)
  | fuel + 1, '[' :: rest => do
    let (set, rest) ← bracketed? rest
    (expression? fuel rest).map ('[' :: set ++ ·)
  | fuel + 1, c :: rest =>
    let escaped := c = '.' || "^$+\x7b\x7d|()\\".toList.contains c
    (expression? fuel rest).map ((if escaped then ['\\', c] else [c]) ++ ·)

/-- How a glob is matched. -/
inductive Shape where
  /-- A file or a directory. -/
  | plain (name : List Char)
  | tokens (list : List Token)
  | pattern (regex : Regex)

/-- Whether a character is special in a glob. -/
def isSpecial (c : Char) : Bool := c == '*' || c == '?' || c == '['

/-- The shape of a glob without blanks around it and `./` before it. -/
def shapeOf (text : List Char) : Except GlobError Shape :=
  if ! text.any isSpecial then .ok (.plain (dropWhileEnd (· == '/') text))
  else if ! text.contains '[' then .ok (.tokens (tokens text))
  else match expression? (text.length + 1) text with
    | none => .error (.unclosedClass (String.ofList text))
    | some e =>
      match Regex.compile false (String.ofList ('^' :: e ++ ['$'])) with
      | .error cause => .error (.badPattern cause)
      | .ok regex => .ok (.pattern regex)

/-- Whether a path has a shape. -/
def Shape.admits : Shape → List Char → Bool
  | .plain name, path => isWithin name path
  | .tokens ts, path => (restsAfter ts [path]).any List.isEmpty
  | .pattern regex, path => regex.isMatch path

end Glob

/-- A glob. -/
structure Glob where
  /-- The text without blanks around it and `./` before it. -/
  pattern : String
  shape : Glob.Shape

namespace Glob

/-- Read a glob. -/
def ofString (text : String) : Except GlobError Glob := do
  let body := dropCurrentDir (trim text.toList)
  if body.isEmpty then .error .empty
  else return ⟨String.ofList body, ← shapeOf body⟩

/-- Read a list of globs; the first error counts. -/
def ofStrings (texts : List String) : Except GlobError (List Glob) := texts.mapM ofString

/-- Whether a path matches. -/
def admits (glob : Glob) (path : String) : Bool :=
  glob.shape.admits (dropCurrentDir path.toList)

/-- Whether a path matches any of some globs. -/
def anyAdmits (globs : List Glob) (path : String) : Bool := globs.any (·.admits path)

/-- Globs are the same when their texts are. -/
instance : BEq Glob := ⟨fun a b => a.pattern == b.pattern⟩

end Glob

end QualityGate
