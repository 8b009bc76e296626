import QualityGate.Proofs.Json.Reading
import QualityGate.Proofs.Json.RoundTrip
import QualityGate.Proofs.Manifest.Freshness
import QualityGate.Proofs.Time.Rfc3339

/-!
# Manifests in a store

A store keeps a manifest as text, in one of the two layouts (`StoredText`).  A manifest in which
nothing is wrong and that was generated at an ordinary instant is read back from either
(`parse_of_storedText`).

### What is load-bearing

* `ofJson?_toJson` – the record of a manifest is read as the manifest.  Of its fields only the
  instant can be lost, when its year has not four digits or it lies in a leap second.
* `writable_toJson` – a record of a manifest has no numbers, so it can always be written.
-/

namespace QualityGate

theorem ManifestEntry.ofJson?_toJson (entry : ManifestEntry) :
    ManifestEntry.ofJson? entry.toJson = some entry := rfl

theorem ManifestEntry.writable_toJson (entry : ManifestEntry) : entry.toJson.Writable :=
  .obj (by simp [Json.Writable.str])

namespace Manifest

/-- The record of a manifest is read as the manifest, if its instant can be read. -/
theorem ofJson?_toJson_eq (manifest : Manifest) :
    ofJson? manifest.toJson = (Time.ofDocument? (Time.documentText manifest.generatedAt)).map
      fun instant => { manifest with generatedAt := instant } := by
  have fields : Json.fields? .json ["unit", "algorithm", "generatedAt", "unitDigest", "files"]
      manifest.toJson = some [some (.str manifest.unit), some (.str manifest.algorithm.name),
        some (.str (Time.documentText manifest.generatedAt)), some (.str manifest.unitDigest),
        some (.arr (manifest.files.map ManifestEntry.toJson))] := rfl
  have files : Json.list? ManifestEntry.ofJson? (.arr (manifest.files.map ManifestEntry.toJson)) =
      some manifest.files := Json.list?_map fun entry _ => entry.ofJson?_toJson
  have algorithm := Json.choice?_name manifest.algorithm
  cases instant : Time.ofDocument? (Time.documentText manifest.generatedAt) with
  | none => simp [ofJson?, fields, Json.required, Json.string?, instant, algorithm]
  | some instant => simp [ofJson?, fields, Json.required, Json.string?, instant, files, algorithm]

/-- The record of a manifest is read as the manifest. -/
theorem ofJson?_toJson {manifest : Manifest} (ordinary : manifest.generatedAt.Ordinary) :
    ofJson? manifest.toJson = some manifest := by
  rw [ofJson?_toJson_eq, Time.ofDocument?_documentText ordinary, Option.map_some]

/-- The record of a manifest can be written. -/
theorem writable_toJson (manifest : Manifest) : manifest.toJson.Writable := by
  have files : (Json.arr (manifest.files.map ManifestEntry.toJson)).Writable :=
    Json.writable_map fun entry _ => entry.writable_toJson
  exact .obj (by simp [Json.Writable.str, files])

/-- The texts that a store keeps for a manifest. -/
inductive StoredText (manifest : Manifest) : String → Prop where
  | compact : StoredText manifest manifest.toJson.toCompact
  | pretty : StoredText manifest (manifest.toJson.toPretty ++ "\n")

/-- What a store keeps for a manifest is a text of its record. -/
theorem StoredText.parse?_eq {manifest : Manifest} {raw : String}
    (stored : manifest.StoredText raw) : Json.parse? raw = some manifest.toJson := by
  cases stored with
  | compact => exact Json.parse?_toCompact manifest.writable_toJson
  | pretty => exact Json.parse?_toPretty manifest.writable_toJson

/-- Of a manifest that is read back at most the instant is another one. -/
theorem parse_cases_of_storedText {manifest : Manifest} {raw : String}
    (stored : manifest.StoredText raw) :
    (∃ problem, parse raw = .error problem) ∨
      ∃ instant, parse raw = .ok { manifest with generatedAt := instant } := by
  rw [parse, stored.parse?_eq, Option.bind_some, ofJson?_toJson_eq]
  cases Time.ofDocument? (Time.documentText manifest.generatedAt) with
  | none => exact Or.inl ⟨_, rfl⟩
  | some instant =>
    rw [Option.map_some]
    dsimp only
    split
    · exact Or.inl ⟨_, rfl⟩
    · exact Or.inr ⟨instant, rfl⟩

/-- A manifest is read back from what a store keeps for it. -/
theorem parse_of_storedText {manifest : Manifest} {raw : String} (sound : manifest.Sound)
    (ordinary : manifest.generatedAt.Ordinary) (stored : manifest.StoredText raw) :
    parse raw = .ok manifest := by
  rw [parse, stored.parse?_eq, Option.bind_some, ofJson?_toJson ordinary]
  simp [problem?_eq_none_iff.mpr sound]

end Manifest

end QualityGate
