import QualityGate.Manifest.Basic
import QualityGate.Rule.Scan
import QualityGate.Run.Outcome

/-!
# Ports

Everything the pipeline needs from outside is behind a *port*: a record of operations that read and
change a state.  What the state is does not matter here; a project in memory and a directory are two
instances.

* Every operation may change the state, so answers may differ from call to call.
* Whatever fails reports an error and may still have changed the state.
* Contents are handed out as a reader, which is a snapshot: two readings of a path through one
  reader agree.
-/

namespace QualityGate

/-- An error of a port: what failed, and what caused it, the nearest cause first. -/
structure PortError where
  message : String
  causes : List String := []
  deriving DecidableEq, Repr

/-- The error with its causes in one line. -/
def PortError.chain (error : PortError) : String := ": ".intercalate (error.message :: error.causes)

/-- An operation that may fail. -/
abbrev PortM (σ : Type) : Type → Type := ExceptT PortError (StateM σ)

/-- A view of the project tree.  Paths are relative to the root. -/
structure Workspace (σ : Type) where
  root : String
  dirExists : String → StateM σ Bool
  fileExists : String → StateM σ Bool
  /-- Whether any file matches any of the globs. -/
  anyMatches : List String → StateM σ Bool
  /-- The files that match any of the globs, in order. -/
  listMatching : List String → PortM σ (List String)
  /-- Whether a file in one of the subtrees was modified after an instant, if that is known. -/
  anyModifiedAfter : List String → Time.Instant → StateM σ (Option Bool)

/-- The paths that changed since a revision; an error means that they are not known. -/
structure DiffProvider (σ : Type) where
  changedPaths : PortM σ (List String)

/-- The marker of the last verification. -/
structure BaselineStore (σ : Type) where
  load : PortM σ (Option String)
  save : Time.Instant → PortM σ Unit

/-- The stored manifests, as text, by the name of the unit. -/
structure ManifestStore (σ : Type) where
  load : String → PortM σ (Option String)
  save : Manifest → PortM σ Unit
  /-- Delete a manifest, if there is one. -/
  expire : String → PortM σ Unit

/-- The context artifacts, by path. -/
structure ArtifactStore (σ : Type) where
  read : String → PortM σ (Option String)
  write : String → String → PortM σ Unit
  /-- Delete an artifact, if there is one. -/
  remove : String → PortM σ Unit

/-- A process to be started. -/
structure Invocation where
  /-- The name under which the result is reported. -/
  stageId : String
  command : String
  args : List String
  cwd : String
  /-- The limit in milliseconds. -/
  limitMs : Nat
  deriving DecidableEq, Repr

/-- What starts processes.  A process that runs is a result, however it ends; an error means that
none could be started. -/
structure Runner (σ : Type) where
  execute : Invocation → PortM σ ProcessResult

/-- Whether a unit can be trusted. -/
structure DriftGate (σ : Type) where
  verify : String → StateM σ DriftStatus

/-- Time, and the milliseconds on a clock that only goes forward. -/
structure Clock (σ : Type) where
  now : StateM σ Time.Instant
  ticksMs : StateM σ Nat

end QualityGate
