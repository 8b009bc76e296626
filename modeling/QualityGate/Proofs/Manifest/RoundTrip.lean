import QualityGate.Project.Directory
import QualityGate.Proofs.Disk.Writing
import QualityGate.Proofs.Manifest.Reasons
import QualityGate.Proofs.Manifest.Storage

/-!
# Manifests come back from where they were put

A manifest that validation accepts is read back as it is (`parse_stored`): from its record without
spaces, from its record in lines, and from the directory of a project, once it was saved there.

Nothing is asked of the name of the unit or of the paths beyond what validation asks.  A quote, a
backslash or a control character is escaped when a text is written, and the escape is read as that
character; every other character stands for itself, in the record and in the bytes of the file.
-/

namespace QualityGate

/-- What is saved in a directory is the text that the store of a directory keeps, and it is loaded
again. -/
theorem ProjectDirectory.load_of_save {project : ProjectDirectory} {manifest : Manifest}
    {before after : Host}
    (saved : (project.manifestStore.save manifest).run.run before = (.ok (), after)) :
    (project.manifestStore.load manifest.unit).run.run after =
      (.ok (some (manifest.toJson.toPretty ++ "\n")), after) := by
  dsimp only [manifestStore] at saved ⊢
  exact Host.readFile?_of_replaceFile saved

namespace Manifest

/-- **Stored manifests come back.**  A manifest that validation accepts and that was generated at an
ordinary instant is what its record is read as, in either layout.  If a directory saves it, the
directory then loads a text that is read as the same manifest. -/
theorem parse_stored {manifest : Manifest} (accepted : manifest.problem? = none)
    (ordinary : manifest.generatedAt.Ordinary) :
    parse manifest.toJson.toCompact = .ok manifest ∧
      parse (manifest.toJson.toPretty ++ "\n") = .ok manifest ∧
      ∀ (project : ProjectDirectory) (before after : Host),
        (project.manifestStore.save manifest).run.run before = (.ok (), after) →
          ∃ raw, (project.manifestStore.load manifest.unit).run.run after = (.ok (some raw), after) ∧
            parse raw = .ok manifest := by
  have sound : manifest.Sound := problem?_eq_none_iff.mp accepted
  have compact : parse manifest.toJson.toCompact = .ok manifest :=
    parse_of_storedText sound ordinary .compact
  have pretty : parse (manifest.toJson.toPretty ++ "\n") = .ok manifest :=
    parse_of_storedText sound ordinary .pretty
  refine ⟨compact, pretty, ?_⟩
  intro project before after saved
  exact ⟨_, ProjectDirectory.load_of_save saved, pretty⟩

/-- The name of a unit with a quote, a backslash, a line break and another control character. -/
def escapedUnit : String := "a \"unit\" \\ of\n\x01 Zürich"

/-- A manifest of two empty files with a fraction of a second. -/
def escapedManifest : Manifest :=
  ofReadable emptyFiles escapedUnit ["a\\b\t.rs", "src/\"ü\".rs"] .sha512 ⟨951782400, 120000000⟩

theorem sound_escapedManifest : escapedManifest.Sound := by
  have live : normalSet ["a\\b\t.rs", "src/\"ü\".rs"] = ["a\\b\t.rs", "src/\"ü\".rs"] :=
    normalSet_pair (by decide) (by decide +kernel)
  refine sound_ofReadable (by decide +kernel) ?_ fun path _ => ⟨[], rfl⟩
  rw [live]
  exact List.cons_ne_nil _ _

theorem ordinary_escapedManifest : escapedManifest.generatedAt.Ordinary :=
  ⟨by decide +kernel, by decide +kernel, by decide +kernel⟩

/-- It comes back. -/
theorem parse_stored_escaped :
    escapedManifest.problem? = none ∧ escapedManifest.generatedAt.Ordinary ∧
      parse escapedManifest.toJson.toCompact = .ok escapedManifest ∧
      parse (escapedManifest.toJson.toPretty ++ "\n") = .ok escapedManifest := by
  have accepted : escapedManifest.problem? = none := problem?_eq_none_iff.mpr sound_escapedManifest
  obtain ⟨compact, pretty, -⟩ := parse_stored accepted ordinary_escapedManifest
  exact ⟨accepted, ordinary_escapedManifest, compact, pretty⟩

end Manifest

end QualityGate
