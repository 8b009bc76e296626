import QualityGate.Repository.Basic

/-!
# Revisions

A revision is a text that denotes a point of the history, or something in its snapshot.  It is a
name, followed by steps back in the history, and then perhaps by a colon and a path.

* `~n` goes back `n` snapshots, `^n` to the `n`-th snapshot before; the number 1 may be left out,
  and the number 0 stays.  Since the history is a line there is never a second one before.
* `^` with a kind in braces stays.
* A path after a colon denotes a directory of the snapshot, or a file.
-/

namespace QualityGate.Repository

open QualityGate.Text (Bytes)

/-- What a revision denotes. -/
inductive Revision where
  /-- A point of the history, with what was before it. -/
  | point (snapshot : Snapshot) (before : List Snapshot)
  | directory (snapshot : Snapshot)
  | file (content : Bytes)

/-- The point that ends a history. -/
def Revision.ofHistory? : List Snapshot → Option Revision
  | [] => none
  | snapshot :: before => some (.point snapshot before)

/-- The snapshot of a revision; a file has none. -/
def Revision.snapshot? : Revision → Option Snapshot
  | .point snapshot _ => some snapshot
  | .directory snapshot => some snapshot
  | .file _ => none

/-- The names of the branch that a new repository is on. -/
def branchNames : List String := ["HEAD", "@", "master", "heads/master", "refs/heads/master"]

/-- The point that a name denotes. -/
def named? (repository : Repository) (name : String) : Option Revision :=
  if branchNames.contains name then Revision.ofHistory? repository.history
  else
    let tagName := ["refs/tags/", "tags/", ""].findSome? fun front =>
      (Text.stripPrefix? front.toList name.toList).map String.ofList
    (tagName.bind fun name => repository.tags.lookup name).bind Revision.ofHistory?

/-- A number at the start of a text, and the rest. -/
def leadingNumber (default : Nat) (text : List Char) : Nat × List Char :=
  match text.takeWhile Char.isDigit with
  | [] => (default, text)
  | digits => ((String.ofList digits).toNat?.getD 0, text.dropWhile Char.isDigit)

/-- What is at a path in a snapshot. -/
def atPath? (snapshot : Snapshot) (path : String) : Option Revision :=
  let directory := if path.endsWith "/" then String.ofList path.toList.dropLast else path
  if path.isEmpty then some (.directory snapshot)
  else match snapshot.lookup path with
    | some content => some (.file content)
    | none =>
      let inside := snapshot.filterMap fun (file, content) =>
        (Text.stripPrefix? (directory.toList ++ ['/']) file.toList).map fun rest =>
          (String.ofList rest, content)
      if inside.isEmpty then none else some (.directory inside)

/-- Follow the steps after a name. -/
def steps? : Nat → Revision → List Char → Option Revision
  | 0, _, _ => none
  | _, revision, [] => some revision
  | fuel + 1, .point snapshot before, '~' :: rest =>
    let (count, rest) := leadingNumber 1 rest
    (Revision.ofHistory? ((snapshot :: before).drop count)).bind (steps? fuel · rest)
  | fuel + 1, .point snapshot before, '^' :: '\x7b' :: rest =>
    match Text.cutAt? ['\x7d'] rest with
    | some (kind, rest) =>
      if kind = [] ∨ kind = "commit".toList then steps? fuel (.point snapshot before) rest
      else if kind = "tree".toList then steps? fuel (.directory snapshot) rest
      else none
    | none => none
  | fuel + 1, .point snapshot before, '^' :: rest =>
    match leadingNumber 1 rest with
    | (0, rest) => steps? fuel (.point snapshot before) rest
    | (1, rest) => (Revision.ofHistory? before).bind (steps? fuel · rest)
    | _ => none
  | _, revision, ':' :: path => revision.snapshot?.bind (atPath? · (String.ofList path))
  | _, _, _ => none

/-- What a text denotes. -/
def resolve? (repository : Repository) (text : String) : Option Revision :=
  let isName := fun c => c != '~' && c != '^' && c != ':'
  let name := text.toList.takeWhile isName
  (named? repository (String.ofList name)).bind
    (steps? (text.length + 1) · (text.toList.dropWhile isName))

end QualityGate.Repository
