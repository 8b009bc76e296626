import QualityGate.Digest.Algorithm
import QualityGate.Json.Decode
import QualityGate.Text.Order
import QualityGate.Time.Rfc3339

/-!
# Manifests

A manifest records what the files of a configuration unit contained: a digest for every file, and
one digest over all of them.  The latter is taken over a text with one line for every entry, in
order and without repetitions, so it depends only on the set of entries.
-/

namespace QualityGate

/-- A file of a unit. -/
structure ManifestEntry where
  path : String
  digest : String
  deriving DecidableEq, Repr

/-- A record of the contents of a unit. -/
structure Manifest where
  /-- The name of the unit. -/
  unit : String
  /-- The algorithm of every digest. -/
  algorithm : Algorithm
  generatedAt : Time.Instant
  /-- The digest over all entries. -/
  unitDigest : String
  files : List ManifestEntry
  deriving DecidableEq, Repr

namespace ManifestEntry

/-- Whether an entry may stand before another: by path, then by digest. -/
def before (a b : ManifestEntry) : Bool :=
  ((compare a.path b.path).then (compare a.digest b.digest)).isLE

/-- The different entries in order. -/
def canonical (entries : List ManifestEntry) : List ManifestEntry :=
  entries.eraseDups.mergeSort before

/-- The line of an entry in the text that the unit digest is taken over. -/
def line (entry : ManifestEntry) : List Char :=
  entry.path.toList ++ ':' :: (entry.digest.toList ++ ['\n'])

/-- The text that the unit digest is taken over. -/
def preimage (entries : List ManifestEntry) : List Char := (canonical entries).flatMap line

/-- The digest over all entries. -/
def unitDigest (algorithm : Algorithm) (entries : List ManifestEntry) : String :=
  algorithm.digest (Text.Utf8.encode (preimage entries))

/-- The entry as a record. -/
def toJson (entry : ManifestEntry) : Json :=
  .obj [("path", .str entry.path), ("digest", .str entry.digest)]

/-- Read an entry. -/
def ofJson? (json : Json) : Option ManifestEntry := do
  match ← Json.fields? .json ["path", "digest"] json with
  | [path, digest] =>
    some { path := ← Json.required Json.string? path, digest := ← Json.required Json.string? digest }
  | _ => none

end ManifestEntry

namespace Manifest

/-- The manifest as a record. -/
def toJson (manifest : Manifest) : Json := .obj [
  ("unit", .str manifest.unit),
  ("algorithm", .str manifest.algorithm.name),
  ("generatedAt", .str (Time.documentText manifest.generatedAt)),
  ("unitDigest", .str manifest.unitDigest),
  ("files", .arr (manifest.files.map ManifestEntry.toJson))]

/-- Read a manifest. -/
def ofJson? (json : Json) : Option Manifest := do
  match ← Json.fields? .json ["unit", "algorithm", "generatedAt", "unitDigest", "files"] json with
  | [unit, algorithm, generatedAt, unitDigest, files] =>
    some {
      unit := ← Json.required Json.string? unit
      algorithm := ← Json.required (Json.choice? .json Algorithm.names) algorithm
      generatedAt := ← (← Json.required Json.string? generatedAt) |> Time.ofDocument?
      unitDigest := ← Json.required Json.string? unitDigest
      files := ← Json.required (Json.list? ManifestEntry.ofJson?) files }
  | _ => none

end Manifest

end QualityGate
