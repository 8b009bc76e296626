import QualityGate.Glob
import QualityGate.Json.Basic
import QualityGate.Text.Order

/-!
# Which files a lint stage looks at

In changed-only mode a lint stage looks at the changed files that its globs select, all of them when
it has no globs.  When the changes are unknown, or nothing is selected, it looks at the whole tree:
narrowing may make a check smaller, but never empty.
-/

namespace QualityGate

/-- Whether lint stages look at changed files or at the whole tree. -/
inductive FileScope where
  | full
  | changedOnly
  deriving DecidableEq, Repr

/-- What a lint stage looks at. -/
inductive FileSelection where
  | changed (files : List String)
  | fullTree
  deriving DecidableEq, Repr

/-- The scopes with their names. -/
def FileScope.names : List (String × FileScope) :=
  [("full", .full), ("changed_only", .changedOnly)]

namespace FileSelection

/-- The files, unless it is the whole tree. -/
def files? : FileSelection → Option (List String)
  | changed files => some files
  | fullTree => none

/-- The selection as a record. -/
def toJson : FileSelection → Json
  | changed files => .obj [("selection", .str "changed"), ("files", .strs files)]
  | fullTree => .obj [("selection", .str "full_tree")]

/-- The changed files that the globs select, each once and in order. -/
def eligible (changed : List String) (globs : List Glob) : List String :=
  Text.sortedSet (changed.filter fun path => globs.isEmpty || Glob.anyAdmits globs path)

/-- Choose what a lint stage looks at. -/
def narrow (scope : FileScope) (changed : Option (List String)) (globs : List Glob) :
    FileSelection :=
  match scope, changed with
  | .changedOnly, some paths =>
    match eligible paths globs with
    | [] => fullTree
    | files => .changed files
  | _, _ => fullTree

end FileSelection

end QualityGate
