import QualityGate.Disk.Operations
import QualityGate.Wildcard

/-!
# Ignored files

A directory may have a list of patterns for names that a repository does not look at.  A pattern
counts in the directory of its list and below.  The last pattern that matches decides, where the
patterns of a deeper list come later; a pattern with `!` in front takes a file back in.

Whatever lies in an ignored directory is ignored, and cannot be taken back in.
-/

namespace QualityGate.Repository

/-- A pattern. -/
structure IgnorePattern where
  /-- What matches is taken back in. -/
  negated : Bool
  /-- Only directories match. -/
  directoriesOnly : Bool
  /-- The pattern is about the path from its list on, and not about the name alone. -/
  anchored : Bool
  pieces : List Wildcard.Piece
  deriving DecidableEq, Repr

/-- The pieces of a pattern; `atStart` tells that a name begins. -/
def ignorePieces : Nat → Bool → List Char → List Wildcard.Piece
  | 0, _, _ => []
  | _, _, [] => []
  | fuel + 1, true, '*' :: '*' :: '/' :: rest => .glob .directories :: ignorePieces fuel true rest
  | _, true, ['*', '*'] => [.glob .anything]
  | fuel + 1, _, '*' :: rest =>
    .glob .withinName :: ignorePieces fuel false (rest.dropWhile (· = '*'))
  | fuel + 1, _, '?' :: rest => .glob .one :: ignorePieces fuel false rest
  | fuel + 1, _, '\\' :: c :: rest => .glob (.char c) :: ignorePieces fuel false rest
  | fuel + 1, _, '[' :: rest =>
    match Wildcard.set? rest with
    | some (set, rest) => set :: ignorePieces fuel false rest
    | none => .glob (.char '[') :: ignorePieces fuel false rest
  | fuel + 1, _, c :: rest => .glob (.char c) :: ignorePieces fuel (c = '/') rest

/-- A line without the spaces at its end that are not escaped, written backwards. -/
def dropSpaces : List Char → List Char
  | ' ' :: '\\' :: rest => ' ' :: '\\' :: rest
  | ' ' :: rest => dropSpaces rest
  | line => line

/-- The pattern of a line, if it has one. -/
def IgnorePattern.ofLine? (line : List Char) : Option IgnorePattern :=
  let line := (dropSpaces line.reverse).reverse
  let (negated, line) := match line with
    | '!' :: rest => (true, rest)
    | line => (false, line)
  let directoriesOnly := line.getLast? == some '/'
  let body := if directoriesOnly then line.dropLast else line
  let anchored := body.contains '/'
  let body := if body.head? == some '/' then body.drop 1 else body
  if line.head? == some '#' || body.isEmpty then none
  else some ⟨negated, directoriesOnly, anchored, ignorePieces (body.length + 1) true body⟩

/-- Whether a pattern matches what some names lead to from its list on. -/
def IgnorePattern.admits (pattern : IgnorePattern) (isDirectory : Bool) (names : List String) :
    Bool :=
  (isDirectory || ! pattern.directoriesOnly)
    && Wildcard.fitsPath pattern.pieces
      (if pattern.anchored then ("/".intercalate names).toList
      else (names.getLast?.getD "").toList)

/-- The patterns of the list in a directory. -/
def patternsIn (disk : Disk) (directory : Location) : List IgnorePattern :=
  match disk.get? (directory ++ [".gitignore"]) with
  | some (.file content _) =>
    (Text.lines (Text.Utf8.decodeLossy content)).filterMap IgnorePattern.ofLine?
  | _ => []

/-- Whether a node is ignored by itself, by the lists in the directories that lead to it from the
top of the repository. -/
def isListed (disk : Disk) (top : Location) (isDirectory : Bool) (names : List String) : Bool :=
  let verdicts := (List.range names.length).flatMap fun depth =>
    (patternsIn disk (top ++ names.take depth)).filterMap fun pattern =>
      if pattern.admits isDirectory (names.drop depth) then some (! pattern.negated) else none
  verdicts.getLast?.getD false

/-- Whether a file is ignored, by itself or with a directory that leads to it. -/
def isIgnored (disk : Disk) (top : Location) (names : List String) : Bool :=
  (List.range (names.length - 1)).any (fun depth =>
      isListed disk top true (names.take (depth + 1)))
    || isListed disk top false names

end QualityGate.Repository
