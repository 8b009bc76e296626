import QualityGate.Json.Decode
import QualityGate.Text.Blank

/-!
# The secondary suite

A project may have a second test suite that is run after a test stage has passed.  It lives in a
directory of its own and tracks some subtrees of the project; without any it tracks its directory.
-/

namespace QualityGate

/-- The second test suite. -/
structure SecondarySuite where
  /-- The directory of the suite. -/
  dir : String
  /-- The subtrees whose changes matter to the suite. -/
  tracked : List String := []
  command : String
  args : List String := []
  timeoutSecs : Option Nat := none
  deriving DecidableEq, Repr

namespace SecondarySuite

/-- The name under which a run of the suite after this stage is reported. -/
def stageId (parent : String) : String := parent ++ ":secondary"

/-- The subtrees that the suite tracks. -/
def trackedPrefixes (suite : SecondarySuite) : List String :=
  if suite.tracked.isEmpty then [suite.dir] else suite.tracked

/-- Whether a path is a tracked subtree or lies below it. -/
def isBelow (subtree path : String) : Bool :=
  let root := Text.dropWhileEnd (· == '/') (Text.dropCurrentDir subtree.toList)
  match Text.stripPrefix? root (Text.dropCurrentDir path.toList) with
  | none => false
  | some rest => ! root.isEmpty && (rest.isEmpty || rest.head? == some '/')

/-- Whether the suite tracks a path. -/
def tracks (suite : SecondarySuite) (path : String) : Bool :=
  suite.trackedPrefixes.any fun subtree => isBelow subtree path

/-- The suite as a record. -/
def toJson (suite : SecondarySuite) : Json := .obj [
  ("dir", .str suite.dir), ("tracked", .strs suite.tracked), ("command", .str suite.command),
  ("args", .strs suite.args), ("timeout_secs", Json.opt .nat suite.timeoutSecs)]

/-- Read a suite. -/
def ofJson? (dialect : Json.Dialect) (json : Json) : Option SecondarySuite := do
  let strings := Json.orElse [] (Json.list? Json.string?)
  match ← Json.fields? dialect ["dir", "tracked", "command", "args", "timeout_secs"] json with
  | [dir, tracked, command, args, timeoutSecs] =>
    some {
      dir := ← Json.required Json.string? dir
      tracked := ← strings tracked
      command := ← Json.required Json.string? command
      args := ← strings args
      timeoutSecs := ← Json.orElse none (Json.nullable? Json.nat?) timeoutSecs }
  | _ => none

end SecondarySuite

end QualityGate
