import QualityGate.Project.Directory
import QualityGate.Project.Memory
import QualityGate.Proofs.Disk.Writing
import QualityGate.Proofs.Time.Denotation
import QualityGate.Scope.Probe

/-!
# The stored marker

The marker of the last verification is stored as text and read when evidence is gathered.  This
module says which instant is used then.

* `ScopeProbe.gatherSince` – what is left to gather once the marker has been read: the workspace is
  asked about an instant, and the evidence holds the same one as text.
* `ScopeProbe.marker_keeps_instant` – that is the instant of the marker.  For a marker that a
  project in a directory has saved it is the whole second of the instant that was saved, which is
  never later; for any other text in the form of RFC 3339 it is what the text denotes, whatever
  offset it is written with.

### What is load-bearing

Saving writes a text in the form of RFC 3339 with a line break behind it
(`Time.Stamp.text_ofClock_whole`), so what holds of every such text holds of it.
-/

namespace QualityGate

open QualityGate.Time

namespace ScopeProbe

variable {σ : Type} {suite : SecondarySuite} {changed : Option (List String)}

/-- The evidence when the marker denotes this instant. -/
def gatherSince (workspace : Workspace σ) (suite : SecondarySuite) (changed : Option (List String))
    (since : Instant) : StateM σ ScopeEvidence := do
  let newer ← workspace.anyModifiedAfter suite.trackedPrefixes since
  return {
    suiteDirExists := ← workspace.dirExists suite.dir
    changedPaths := changed
    lastVerifiedAt := some (offsetText since)
    anyNewer := newer }

/-- The loaded marker is a text that denotes this instant, with blanks around it. -/
def LoadsStamp (probe : ScopeProbe σ) (before after : σ) (instant : Instant) : Prop :=
  ∃ (stamp : Stamp) (front back : List Char), stamp.Denotes instant ∧
    Text.isAllBlank front = true ∧ Text.isAllBlank back = true ∧
    probe.baseline.load.run.run before =
      (.ok (some (String.ofList (front ++ stamp.text.toList ++ back))), after)

/-- The instant of the marker is the one that is used. -/
theorem run_gatherWith {probe : ScopeProbe σ} {before after : σ} {instant : Instant}
    (loads : probe.LoadsStamp before after instant) :
    (probe.gatherWith suite changed).run before =
      (gatherSince probe.workspace suite changed instant).run after := by
  obtain ⟨stamp, front, back, denotes, blankFront, blankBack, loaded⟩ := loads
  have read : ofMarker? (Text.trimmed (String.ofList (front ++ stamp.text.toList ++ back))) =
      some instant := by
    rw [stamp.trimmed_around blankFront blankBack]
    exact Stamp.ofMarker?_text denotes
  have marker : probe.marker.run before = (some instant, after) := by
    unfold ScopeProbe.marker
    rw [StateT.run_bind, loaded]
    exact congrArg (·, after) read
  unfold gatherWith
  rw [StateT.run_bind, marker]
  rfl

/-- What a directory saves is loaded as a text that denotes the whole seconds. -/
theorem loadsStamp_of_save {project : ProjectDirectory} {instant : Instant} {before after : Host}
    (ordinary : instant.Ordinary)
    (saved : (project.baselineStore.save instant).run.run before = (.ok (), after))
    {diff : DiffProvider Host} {workspace : Workspace Host} :
    LoadsStamp ⟨diff, workspace, project.baselineStore⟩ after after instant.whole := by
  have zoned : ZoneText ['Z'] 0 := .universal (Or.inl rfl)
  refine ⟨.ofClock instant.whole ordinary.whole zoned, [], ['\n'],
    Stamp.denotes_ofClock _ zoned (Instant.onClock_zero _).symm, rfl, rfl, ?_⟩
  have text : String.ofList ([] ++ (secondsText instant).toList ++ ['\n']) =
      secondsText instant ++ "\n" := by
    rw [← String.toList_inj]
    simp
  rw [Stamp.text_ofClock_whole ordinary zoned, text]
  exact Host.readFile?_of_replaceFile saved

/-- **The marker keeps its instant.**  When a project in a directory has saved an ordinary instant,
evidence is gathered since its whole second, which is not later than the instant, and the text that
the evidence holds for it denotes that second.  Every text in the form of RFC 3339 denotes exactly
one instant, and evidence is gathered since that one if the text is the stored marker.  Its offset
is of no account: at every offset there is such a text for an instant. -/
theorem marker_keeps_instant :
    (∀ (project : ProjectDirectory) (instant : Instant) (before after : Host), instant.Ordinary →
      (project.baselineStore.save instant).run.run before = (.ok (), after) →
        instant.whole ≤ instant ∧
        (∃ stamp : Stamp, stamp.text = offsetText instant.whole ∧ stamp.Denotes instant.whole) ∧
        ∀ diff workspace suite changed,
          (gatherWith ⟨diff, workspace, project.baselineStore⟩ suite changed).run after =
            (gatherSince workspace suite changed instant.whole).run after) ∧
    (∀ stamp : Stamp, ∃ instant, (∀ other, stamp.Denotes other ↔ other = instant) ∧
      ∀ (σ : Type) (probe : ScopeProbe σ) (before after : σ) (front back : List Char),
        Text.isAllBlank front = true → Text.isAllBlank back = true →
        probe.baseline.load.run.run before =
          (.ok (some (String.ofList (front ++ stamp.text.toList ++ back))), after) →
        ∀ suite changed, (probe.gatherWith suite changed).run before =
          (gatherSince probe.workspace suite changed instant).run after) ∧
    ∀ (instant : Instant) (zone : List Char) (offset : Int), ZoneText zone offset →
      (instant.onClock offset).Ordinary →
        ∃ stamp : Stamp, stamp.zone = zone ∧ stamp.Denotes instant := by
  refine ⟨?_, ?_, ?_⟩
  · intro project instant before after ordinary saved
    have zoned : ZoneText "+00:00".toList 0 := @ZoneText.ahead 0 0 (by decide) (by decide)
    refine ⟨instant.whole_le, ⟨_, Stamp.text_ofClock ordinary.whole zoned,
      Stamp.denotes_ofClock _ zoned (Instant.onClock_zero _).symm⟩, ?_⟩
    intro diff workspace suite changed
    exact run_gatherWith (loadsStamp_of_save ordinary saved)
  · intro stamp
    obtain ⟨instant, denotes⟩ := stamp.exists_denotes
    refine ⟨instant, fun other => ⟨fun also => also.unique denotes, ?_⟩, ?_⟩
    · rintro rfl
      exact denotes
    · intro σ probe before after front back blankFront blankBack loaded suite changed
      exact run_gatherWith ⟨stamp, front, back, denotes, blankFront, blankBack, loaded⟩
  · intro instant zone offset zoned ordinary
    exact ⟨.ofClock _ ordinary zoned, rfl, Stamp.denotes_ofClock ordinary zoned rfl⟩

/-! ### The end of a February -/

/-- A host with a directory in which there is nothing. -/
def bareHost : Host := { disk := ⟨[(["p"], .directory)]⟩, now := ⟨1709251200, 0⟩ }

/-- The last nanosecond of 29 February 2024. -/
def lastOfFebruary : Instant := ⟨1709251199, 999999999⟩

theorem ordinary_lastOfFebruary : lastOfFebruary.Ordinary := ⟨by decide, by decide, by decide⟩

/-- The directory of state can be made. -/
theorem makeDirectories_bareHost : bareHost.disk.makeDirectories "/p/.qualities" =
    .ok (bareHost.disk.put ["p", ".qualities"] .directory) := by
  have length : "/p/.qualities".length = 13 := by decide +kernel
  have trimmed : String.ofList (dropTrailing "/p/.qualities".toList.reverse).reverse =
      "/p/.qualities" := by decide +kernel
  have names : pathNames "/p/.qualities" = ["p", ".qualities"] := by decide +kernel
  have resolved : bareHost.disk.resolve false "/p/.qualities" =
      .ok (["p", ".qualities"], none) := by
    simp [Disk.resolve, names, Disk.pathLimit, Disk.follow, bareHost, Disk.get?, Disk.nameLimit]
    decide
  rw [Disk.makeDirectories, length, Disk.ensureDirectories, Disk.ensureDirectory,
    Disk.makeDirectory, trimmed, resolved]
  rfl

/-- Then every content can be written for the marker. -/
theorem write_bareHost (content : Text.Bytes) :
    ∃ disk, (bareHost.disk.put ["p", ".qualities"] .directory).write bareHost.now
      "/p/.qualities/last-verified" content = .ok disk := by
  have noSlash : "/p/.qualities/last-verified".endsWith "/" = false := by decide +kernel
  have names :
      pathNames "/p/.qualities/last-verified" = ["p", ".qualities", "last-verified"] := by
    decide +kernel
  have resolved : (bareHost.disk.put ["p", ".qualities"] .directory).resolve true
      "/p/.qualities/last-verified" = .ok (["p", ".qualities", "last-verified"], none) := by
    simp [Disk.resolve, names, Disk.pathLimit, Disk.follow, bareHost, Disk.get?, Disk.put,
      Disk.nameLimit]
    decide
  rw [Disk.write, noSlash, resolved]
  exact ⟨_, rfl⟩

theorem save_bareHost : ∃ after,
    ((⟨"/p"⟩ : ProjectDirectory).baselineStore.save lastOfFebruary).run.run bareHost =
      (.ok (), after) := by
  have marker : (⟨"/p"⟩ : ProjectDirectory).markerPath = "/p/.qualities/last-verified" := by
    decide +kernel
  have parent : parentPath? "/p/.qualities/last-verified" = some "/p/.qualities" := by
    decide +kernel
  obtain ⟨disk, written⟩ := write_bareHost (Text.bytesOf (secondsText lastOfFebruary ++ "\n"))
  refine ⟨{ bareHost with disk := disk }, ?_⟩
  dsimp only [ProjectDirectory.baselineStore]
  rw [marker]
  exact Host.run_replaceFile_of_written parent makeDirectories_bareHost written

/-- The same instant on a clock that is five hours and a half ahead, on which it is March. -/
def firstOfMarch : Stamp where
  date := ⟨2024, 3, 1⟩
  separator := 't'
  hour := 5
  minute := 29
  second := 59
  fraction := ".999999999".toList
  nanos := 999999999
  zone := "+05:30".toList
  offset := 330
  year_bounds := by decide
  inCalendar := ⟨by decide, by decide, by decide, by decide⟩
  separates := Or.inr (Or.inl rfl)
  time_bounds := by decide
  fraction_text := @FractionText.digits "999999999".toList (by decide)
    (List.all_eq_true.mp (by decide))
  zone_text := @ZoneText.ahead 5 30 (by decide) (by decide)

/-- An instant at the end of a February is saved and gathered since its second.  Written with an
offset that leads to March, and with blanks around it, it is gathered since with its fraction. -/
theorem marker_keeps_instant_february :
    let store := (⟨"/p"⟩ : ProjectDirectory).baselineStore
    let workspace := (⟨"/p"⟩ : ProjectDirectory).workspace
    let diff := (⟨"/p"⟩ : ProjectDirectory).diffProvider "HEAD"
    let suite : SecondarySuite := { dir := "suite", command := "npm" }
    let project : MemoryProject :=
      { baseline := some " 2024-03-01t05:29:59.999999999+05:30\n" }
    (∃ after, (store.save lastOfFebruary).run.run bareHost = (.ok (), after) ∧
      lastOfFebruary.whole ≤ lastOfFebruary ∧
      (gatherWith ⟨diff, workspace, store⟩ suite none).run after =
        (gatherSince workspace suite none ⟨1709251199, 0⟩).run after) ∧
    (∃ stamp : Stamp, stamp.zone = "+05:30".toList ∧ stamp.Denotes lastOfFebruary) ∧
    firstOfMarch.Denotes lastOfFebruary ∧
    (MemoryProject.probe.gatherWith suite none).run project =
      (gatherSince MemoryProject.workspace suite none lastOfFebruary).run project := by
  intro store workspace diff suite project
  obtain ⟨saved, stamped, written⟩ := marker_keeps_instant
  obtain ⟨after, saves⟩ := save_bareHost
  obtain ⟨earlier, -, gathers⟩ := saved ⟨"/p"⟩ _ _ _ ordinary_lastOfFebruary saves
  have another := written lastOfFebruary _ _ firstOfMarch.zone_text
    ⟨by decide, by decide, by decide⟩
  have denotes : firstOfMarch.Denotes lastOfFebruary :=
    ⟨_, falls_toDays firstOfMarch.inCalendar, by decide, by decide⟩
  have text : String.ofList ([' '] ++ firstOfMarch.text.toList ++ ['\n']) =
      " 2024-03-01t05:29:59.999999999+05:30\n" := by decide +kernel
  obtain ⟨instant, only, reads⟩ := stamped firstOfMarch
  have loaded := reads _ MemoryProject.probe project project [' '] ['\n'] rfl rfl
    (by rw [text]; rfl)
  rw [← (only lastOfFebruary).mp denotes] at loaded
  exact ⟨⟨after, saves, earlier, gathers diff workspace suite none⟩, another, denotes,
    loaded suite none⟩

end ScopeProbe

end QualityGate
