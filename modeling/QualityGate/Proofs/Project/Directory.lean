import QualityGate.Command.Execution
import QualityGate.Proofs.Run.Marker
import QualityGate.Proofs.Unit.Operations

/-!
# Time in a project in a directory

The clock of a host stands still unless a process runs, and a process only lets it go forward.  So
the ports that the program works with are those of a project whose time never goes back
(`LoadedProject.timed_context`), and they tell newer files by the instants at which the files were
modified (`LoadedProject.dated_context`).
-/

namespace QualityGate

/-! ### The clock of a host -/

namespace Host

variable {start : Time.Instant}

/-- On a host it is no earlier than this. -/
def NotBefore (start : Time.Instant) (host : Host) : Prop := start ≤ host.now

theorem keeps_change (heading : Option String) (operation : Disk → Except FileError Disk) :
    Keeps (NotBefore start) (change heading operation).run := by
  refine Keeps.bindExcept (fun _ late => late) fun host => ?_
  split <;> exact fun _ late => late

theorem keeps_write (heading : Option String) (path : String) (content : Text.Bytes) :
    Keeps (NotBefore start) (write heading path content).run :=
  Keeps.bindExcept (fun _ late => late) fun _ => keeps_change _ _

theorem keeps_replaceFile (path : String) (content : Text.Bytes) :
    Keeps (NotBefore start) (replaceFile path content).run := by
  unfold replaceFile
  split
  · exact Keeps.bindExcept (keeps_change _ _) fun _ => keeps_write _ _ _
  · exact keeps_write _ _ _

/-- Reading changes nothing. -/
theorem keeps_readFile? {inv : Host → Prop} (path : String) : Keeps inv (readFile? path).run := by
  refine Keeps.bindExcept (fun _ holds => holds) fun host => ?_
  split <;> exact fun _ holds => holds

theorem keeps_removeFile? (path : String) : Keeps (NotBefore start) (removeFile? path).run := by
  refine Keeps.bindExcept (fun _ late => late) fun host => ?_
  split <;> exact fun _ late => late

end Host

namespace ProjectDirectory

variable {start : Time.Instant} (project : ProjectDirectory)

/-- Listing files changes nothing. -/
theorem keeps_listMatching {inv : Host → Prop} (globs : List String) :
    Keeps inv (project.listMatching globs).run := by
  unfold listMatching
  split
  · exact fun _ holds => holds
  · refine Keeps.bindExcept (fun _ holds => holds) fun host => ?_
    split <;> exact fun _ holds => holds

/-- Asking for the changes changes nothing. -/
theorem keeps_changedPaths {inv : Host → Prop} (revision : String) :
    Keeps inv (project.diffProvider revision).changedPaths.run := by
  refine Keeps.bindExcept (fun _ holds => holds) fun host => ?_
  split <;> exact fun _ holds => holds

/-- Time passes as long as a process runs, whatever the process does. -/
theorem keeps_execute (invocation : Invocation) :
    Keeps (Host.NotBefore start) (runner.execute invocation).run := by
  intro host late
  unfold runner
  rw [PortM.run_get_bind]
  cases Process.run host.disk host.now invocation with
  | error error => exact late
  | ok out =>
    obtain ⟨result, disk⟩ := out
    dsimp only
    -- How time is counted is of no account and is not to be computed.
    have forward := host.now.le_plusMillis result.durationMs
    generalize host.now.plusMillis result.durationMs = later at forward ⊢
    exact late.trans forward

/-- When the files of some subtrees were modified. -/
def modified (host : Host) (subtrees : List String) : List Time.Instant :=
  (subtrees.map fun start => project.path (String.ofList (dropCurrent start.toList))).flatMap
    (modifiedIn host.disk)

end ProjectDirectory

/-! ### What the program works with -/

namespace Command.LoadedProject

variable (project : LoadedProject)

theorem portsKeep_verifier {start : Time.Instant} :
    project.verifier.PortsKeep (Host.NotBefore start) where
  list := project.directory.keeps_listMatching
  contents := fun _ late => late
  read _ := Host.keeps_readFile? _
  remove _ := Host.keeps_removeFile? _
  load _ := Host.keeps_readFile? _
  expire _ := Host.keeps_removeFile? _

theorem portsKeep_context (fileScope : FileScope) {start : Time.Instant} :
    (project.context fileScope).PortsKeep (Host.NotBefore start) where
  execute := ProjectDirectory.keeps_execute
  dirExists _ := fun _ late => late
  fileExists _ := fun _ late => late
  anyMatches globs := (project.directory.keeps_listMatching globs).bind fun answer => by
    cases answer <;> exact Keeps.pure _
  anyModifiedAfter _ _ := fun _ late => late
  changedPaths := project.directory.keeps_changedPaths _
  loadMarker := Host.keeps_readFile? _
  saveMarker _ := Host.keeps_replaceFile _ _
  now := fun _ late => late
  ticks := fun _ late => late

/-- The time of a host never goes back. -/
theorem timed_context (fileScope : FileScope) :
    (project.context fileScope).Timed Host.now where
  forward {before _ _} made :=
    made.keeps (project.portsKeep_context fileScope)
      project.portsKeep_verifier.keeps_verify (le_refl before.now)
  shows {before instant after} made := by
    cases made with
    | now run =>
      cases run
      exact ⟨le_rfl, le_rfl⟩

/-- Newer files are told by the instants at which they were modified. -/
theorem dated_context (fileScope : FileScope) :
    (project.context fileScope).Dated project.directory.modified where
  judges made := by
    cases made with
    | anyModifiedAfter run =>
      cases run
      rfl

end Command.LoadedProject

end QualityGate
