import Mathlib.Tactic.MkIffOfInductiveProp
import QualityGate.Proofs.Json.Reading
import QualityGate.Proofs.Json.RoundTrip
import QualityGate.Run.Report

/-!
# Reports come back from their records

A report whose numbers have the sizes of their fields (`RunReport.Fits`) is what its record is read
as, in either layout, and so a text is that of one report only (`RunReport.read_written`).

For every part of a report there are two facts, each derived from those of its own parts.

* `ofJson?_toJson` – the record of the part is read as the part.
* `writable_toJson` – the record of the part can be written.

### What is load-bearing

A record with a kind is read in two steps: the kind is taken out, and the rest is read as the fields
of that kind.  No two kinds of one record have the same name, and no field is named like the member
with the kind, so neither step can go to another constructor.  A field that is left out is told
apart from one that is there by its name, and a `null` stands for a number only where no number is
`null`.
-/

namespace QualityGate

open Json (Signed32 Unsigned64)

/-! ### Reasons for distrust -/

namespace DriftReason

/-- The counts have the size of their fields. -/
def Fits : DriftReason → Prop
  | duplicateSection _ count | duplicateStamp count => Unsigned64 count
  | _ => True

theorem one?_obj {α : Type} {name : String} {read : Json → Option α} {value : Json} {a : α}
    (reads : read value = some a) : one? name read (.obj [(name, value)]) = some a := by
  have fields : Json.fields? .json [name] (.obj [(name, value)]) = some [some value] :=
    Json.fields?_obj .json [] rfl (List.nodup_singleton name)
  simp [one?, fields, Json.required, reads]

theorem two?_obj {α : Type} {first second : String} {read : Json → Option α} {x y : Json} {a b : α}
    (apart : first ≠ second) (readsFirst : read x = some a) (readsSecond : read y = some b) :
    two? first second read (.obj [(first, x), (second, y)]) = some (a, b) := by
  have fields : Json.fields? .json [first, second] (.obj [(first, x), (second, y)]) =
      some [some x, some y] := Json.fields?_obj .json [] rfl (by simp [apart])
  simp [two?, fields, Json.required, readsFirst, readsSecond]

theorem tagged?_record {kind : String} {members : List (String × Json)}
    (others : ∀ member ∈ members, member.1 ≠ "kind") :
    Json.tagged? "kind" (record kind members) = some (kind, .obj members) :=
  Json.tagged?_obj others

theorem paths?_strs (paths : List String) :
    one? "paths" (Json.list? Json.string?) (.obj [("paths", .strs paths)]) = some paths :=
  one?_obj (Json.list?_strs paths)

/-- The record of a reason is read as the reason. -/
theorem ofJson?_toJson {reason : DriftReason} (fits : reason.Fits) :
    ofJson? reason.toJson = some reason := by
  cases reason with
  | missing =>
    rw [ofJson?, toJson, tagged?_record (by simp)]
    rfl
  | malformed detail =>
    have reads : one? "detail" Json.string? (.obj [("detail", .str detail)]) = some detail :=
      one?_obj rfl
    rw [ofJson?, toJson, tagged?_record (by simp)]
    simp [reads]
  | algorithmMismatch stored expected =>
    have reads := two?_obj (show "stored" ≠ "expected" by simp) (Json.choice?_name stored)
      (Json.choice?_name expected)
    rw [ofJson?, toJson, tagged?_record (by simp)]
    simp [reads]
  | unreadable path error =>
    have reads : two? "path" "error" Json.string? (.obj [("path", .str path), ("error", .str error)])
        = some (path, error) := two?_obj (by simp) rfl rfl
    rw [ofJson?, toJson, tagged?_record (by simp)]
    simp [reads]
  | filesAdded paths | filesRemoved paths | contentChanged paths =>
    rw [ofJson?, toJson, tagged?_record (by simp)]
    simp [paths?_strs]
  | duplicateSection title count =>
    -- Whatever stands for the count will do; its bound is not to be computed with.
    have reads {value : Json} (known : Json.nat? value = some count) :
        ofJson? (record "duplicate_section" [("section", .str title), ("count", value)]) =
          some (duplicateSection title count) := by
      have fields : Json.fields? .json ["section", "count"]
          (.obj [("section", .str title), ("count", value)]) = some [some (.str title), some value] :=
        Json.fields?_obj .json [] rfl (by simp)
      rw [ofJson?, tagged?_record (by simp)]
      simp [section?, fields, Json.required, Json.string?, known]
    exact reads (Json.nat?_nat fits)
  | duplicateStamp count =>
    have reads {value : Json} (known : Json.nat? value = some count) :
        ofJson? (record "duplicate_manifest" [("count", value)]) = some (duplicateStamp count) := by
      rw [ofJson?, tagged?_record (by simp)]
      simp [one?_obj known]
    exact reads (Json.nat?_nat fits)
  | staleArtifact recorded live =>
    have reads : two? "recorded" "live" Json.string?
        (.obj [("recorded", .str recorded), ("live", .str live)]) = some (recorded, live) :=
      two?_obj (by simp) rfl rfl
    rw [ofJson?, toJson, tagged?_record (by simp)]
    simp [reads]

/-- The record of a reason can be written. -/
theorem writable_toJson {reason : DriftReason} (fits : reason.Fits) : reason.toJson.Writable := by
  cases reason with
  | duplicateSection title count => exact .obj (by simp [Json.Writable.str, fits.writable])
  | duplicateStamp count => exact .obj (by simp [Json.Writable.str, fits.writable])
  | _ => exact .obj (by simp [Json.Writable.str, Json.writable_strs])

end DriftReason

/-! ### Processes and failures -/

namespace Termination

/-- The code or the signal, and the limit, have the sizes of their fields. -/
def Fits : Termination → Prop
  | exited code => Signed32 code
  | signaled signal => ∀ number ∈ signal, Signed32 number
  | timedOut limitMs => Unsigned64 limitMs

theorem field?_obj {α : Type} {name : String} {read : Option Json → Option α} {value : Json} :
    field? name read (.obj [(name, value)]) = read (some value) := by
  have fields : Json.fields? .json [name] (.obj [(name, value)]) = some [some value] :=
    Json.fields?_obj .json [] rfl (List.nodup_singleton name)
  simp [field?, fields]

theorem signal?_opt {signal : Option Int} (fits : ∀ number ∈ signal, Signed32 number) :
    signal? (some (Json.opt .int signal)) = some signal := by
  cases signal with
  | none => rfl
  | some number =>
    have reads : Json.int32? (.int number) = some number := Json.int32?_int (fits number rfl)
    simp [signal?, Json.orElse, Json.opt, Json.nullable?, reads]

/-- The record of a termination is read as the termination. -/
theorem ofJson?_toJson {termination : Termination} (fits : termination.Fits) :
    ofJson? termination.toJson = some termination := by
  cases termination with
  | exited code =>
    have reads {value : Json} (known : Json.int32? value = some code) :
        ofJson? (.obj [("kind", .str "exited"), ("code", value)]) = some (exited code) := by
      rw [ofJson?, Json.tagged?_obj (by simp)]
      simp [field?_obj, Json.required, known]
    exact reads (Json.int32?_int fits)
  | signaled signal =>
    have reads {value : Json} (known : signal? (some value) = some signal) :
        ofJson? (.obj [("kind", .str "signaled"), ("signal", value)]) = some (signaled signal) := by
      rw [ofJson?, Json.tagged?_obj (by simp)]
      simp [field?_obj, known]
    exact reads (signal?_opt fits)
  | timedOut limitMs =>
    have reads {value : Json} (known : Json.nat? value = some limitMs) :
        ofJson? (.obj [("kind", .str "timed_out"), ("limit_ms", value)]) = some (timedOut limitMs) := by
      rw [ofJson?, Json.tagged?_obj (by simp)]
      simp [field?_obj, Json.required, known]
    exact reads (Json.nat?_nat fits)

theorem writable_opt {signal : Option Int} (fits : ∀ number ∈ signal, Signed32 number) :
    (Json.opt .int signal).Writable := by
  cases signal with
  | none => exact .null
  | some number => exact (fits number rfl).writable

/-- The record of a termination can be written. -/
theorem writable_toJson {termination : Termination} (fits : termination.Fits) :
    termination.toJson.Writable := by
  cases termination with
  | exited code => exact .obj (by simp [Json.Writable.str, Signed32.writable fits])
  | signaled signal => exact .obj (by simp [Json.Writable.str, writable_opt fits])
  | timedOut limitMs => exact .obj (by simp [Json.Writable.str, Unsigned64.writable fits])

end Termination

namespace Failure

/-- The numbers in it have the sizes of their fields. -/
def Fits : Failure → Prop
  | exitCode code => Signed32 code
  | signal number => ∀ known ∈ number, Signed32 known
  | timeout limitMs => Unsigned64 limitMs
  | spawnFailed _ => True
  | drift _ reasons => ∀ reason ∈ reasons, reason.Fits

/-- The record of a failure is read as the failure. -/
theorem ofJson?_toJson {failure : Failure} (fits : failure.Fits) :
    ofJson? failure.toJson = some failure := by
  cases failure with
  | exitCode code =>
    have reads {value : Json} (known : Json.int32? value = some code) :
        ofJson? (.obj [("kind", .str "exit_code"), ("code", value)]) = some (exitCode code) := by
      rw [ofJson?, Json.tagged?_obj (by simp)]
      simp [Termination.field?_obj, Json.required, known]
    exact reads (Json.int32?_int fits)
  | signal number =>
    have reads {value : Json} (known : Termination.signal? (some value) = some number) :
        ofJson? (.obj [("kind", .str "signal"), ("signal", value)]) = some (signal number) := by
      rw [ofJson?, Json.tagged?_obj (by simp)]
      simp [Termination.field?_obj, known]
    exact reads (Termination.signal?_opt fits)
  | timeout limitMs =>
    have reads {value : Json} (known : Json.nat? value = some limitMs) :
        ofJson? (.obj [("kind", .str "timeout"), ("limit_ms", value)]) = some (timeout limitMs) := by
      rw [ofJson?, Json.tagged?_obj (by simp)]
      simp [Termination.field?_obj, Json.required, known]
    exact reads (Json.nat?_nat fits)
  | spawnFailed error =>
    rw [ofJson?, toJson, Json.tagged?_obj (by simp)]
    simp [Termination.field?_obj, Json.required, Json.string?]
  | drift unit reasons =>
    have fields (listed : Json) : Json.fields? .json ["unit", "reasons"]
        (.obj [("unit", .str unit), ("reasons", listed)]) = some [some (.str unit), some listed] :=
      Json.fields?_obj .json [] rfl (by simp)
    have reads : Json.list? DriftReason.ofJson? (.arr (reasons.map DriftReason.toJson)) =
        some reasons := Json.list?_map fun reason mem => DriftReason.ofJson?_toJson (fits reason mem)
    rw [ofJson?, toJson, Json.tagged?_obj (by simp)]
    simp [drift?, fields, Json.required, Json.string?, reads]

/-- The record of a failure can be written. -/
theorem writable_toJson {failure : Failure} (fits : failure.Fits) : failure.toJson.Writable := by
  cases failure with
  | exitCode code => exact .obj (by simp [Json.Writable.str, Signed32.writable fits])
  | signal number => exact .obj (by simp [Json.Writable.str, Termination.writable_opt fits])
  | timeout limitMs => exact .obj (by simp [Json.Writable.str, Unsigned64.writable fits])
  | spawnFailed error => exact .obj (by simp [Json.Writable.str])
  | drift unit reasons =>
    have listed : (Json.arr (reasons.map DriftReason.toJson)).Writable :=
      Json.writable_map fun reason mem => DriftReason.writable_toJson (fits reason mem)
    exact .obj (by simp [Json.Writable.str, listed])

end Failure

namespace ProcessResult

/-- The numbers in it have the sizes of their fields. -/
@[mk_iff]
structure Fits (result : ProcessResult) : Prop where
  exitCode : Signed32 result.exitCode
  termination : result.termination.Fits
  durationMs : Unsigned64 result.durationMs

/-- The record of a result is read as the result. -/
theorem ofJson?_toJson {result : ProcessResult} (fits : result.Fits) :
    ofJson? result.toJson = some result := by
  have fields : Json.fields? .json
      ["stage_id", "exit_code", "termination", "stdout", "stderr", "duration_ms"] result.toJson =
        some [some (.str result.stageId), some (.int result.exitCode),
          some result.termination.toJson, some (.str result.stdout), some (.str result.stderr),
          some (.nat result.durationMs)] := Json.fields?_obj .json [] rfl (by simp)
  simp [ofJson?, fields, Json.required, Json.string?, Json.int32?_int fits.exitCode,
    Termination.ofJson?_toJson fits.termination, Json.nat?_nat fits.durationMs]

/-- The record of a result can be written. -/
theorem writable_toJson {result : ProcessResult} (fits : result.Fits) : result.toJson.Writable :=
  .obj (by simp [Json.Writable.str, fits.exitCode.writable,
    Termination.writable_toJson fits.termination, fits.durationMs.writable])

end ProcessResult

/-! ### Stages -/

namespace StageStatus

/-- The numbers in it have the sizes of their fields. -/
def Fits : StageStatus → Prop
  | failed failure => failure.Fits
  | _ => True

/-- The record of a status is read as the status. -/
theorem ofJson?_toJson {status : StageStatus} (fits : status.Fits) :
    ofJson? status.toJson = some status := by
  cases status with
  | pending => rfl
  | running => rfl
  | succeeded => rfl
  | failed failure =>
    rw [ofJson?, toJson, Json.tagged?_obj (by simp)]
    simp [Termination.field?_obj, Json.required, Failure.ofJson?_toJson fits]
  | skipped reason =>
    rw [ofJson?, toJson, Json.tagged?_obj (by simp)]
    simp [Termination.field?_obj, Json.required, Json.string?]

/-- The record of a status can be written. -/
theorem writable_toJson {status : StageStatus} (fits : status.Fits) : status.toJson.Writable := by
  cases status with
  | failed failure => exact .obj (by simp [Json.Writable.str, Failure.writable_toJson fits])
  | _ => exact .obj (by simp [Json.Writable.str])

end StageStatus

namespace StageReport

/-- The numbers in it have the sizes of their fields. -/
@[mk_iff]
structure Fits (report : StageReport) : Prop where
  status : report.status.Fits
  results : ∀ result ∈ report.results, result.Fits

/-- The record of a stage is read as the stage. -/
theorem ofJson?_toJson {report : StageReport} (fits : report.Fits) :
    ofJson? report.toJson = some report := by
  have status := StageStatus.ofJson?_toJson fits.status
  have results : Json.list? ProcessResult.ofJson? (.arr (report.results.map ProcessResult.toJson)) =
      some report.results :=
    Json.list?_map fun result mem => ProcessResult.ofJson?_toJson (fits.results result mem)
  have fields : Json.fields? .json ["stage_id", "status", "results", "narrowed_to"] report.toJson =
      some [some (.str report.stageId), some report.status.toJson,
        some (.arr (report.results.map ProcessResult.toJson)), report.narrowedTo.map .strs] := by
    rw [toJson]
    cases report.narrowedTo with
    | none => exact Json.fields?_obj .json ["narrowed_to"] rfl (by simp)
    | some files => exact Json.fields?_obj .json [] rfl (by simp)
  have narrowed : Json.orElse none (Json.nullable? (Json.list? Json.string?))
      (report.narrowedTo.map .strs) = some report.narrowedTo := by
    cases report.narrowedTo with
    | none => rfl
    | some files =>
      show (Json.list? Json.string? (Json.strs files)).map some = _
      rw [Json.list?_strs, Option.map_some]
  simp [ofJson?, fields, Json.required, Json.string?, status, results, narrowed]

/-- The record of a stage can be written. -/
theorem writable_toJson {report : StageReport} (fits : report.Fits) : report.toJson.Writable := by
  have results : (Json.arr (report.results.map ProcessResult.toJson)).Writable :=
    Json.writable_map fun result mem => ProcessResult.writable_toJson (fits.results result mem)
  have status := StageStatus.writable_toJson fits.status
  cases narrowed : report.narrowedTo with
  | none =>
    rw [toJson, narrowed]
    exact .obj (by simp [Json.optMember, Json.Writable.str, status, results])
  | some files =>
    rw [toJson, narrowed]
    exact .obj (by simp [Json.optMember, Json.Writable.str, status, results, Json.writable_strs])

end StageReport

/-! ### Runs -/

namespace RunReport

/-- The numbers in it have the sizes of their fields. -/
@[mk_iff]
structure Fits (report : RunReport) : Prop where
  stages : ∀ stage ∈ report.stages, stage.Fits
  durationMs : Unsigned64 report.durationMs

/-- The record of a report is read as the report. -/
theorem ofJson?_toJson {report : RunReport} (fits : report.Fits) :
    ofJson? report.toJson = some report := by
  have stages : Json.list? StageReport.ofJson? (.arr (report.stages.map StageReport.toJson)) =
      some report.stages :=
    Json.list?_map fun stage mem => StageReport.ofJson?_toJson (fits.stages stage mem)
  have fields : Json.fields? .json ["success", "stages", "duration_ms"] report.toJson =
      some [some (.bool report.success), some (.arr (report.stages.map StageReport.toJson)),
        some (.nat report.durationMs)] := Json.fields?_obj .json [] rfl (by simp)
  simp [ofJson?, fields, Json.required, Json.bool?, stages, Json.nat?_nat fits.durationMs]

/-- The record of a report can be written. -/
theorem writable_toJson {report : RunReport} (fits : report.Fits) : report.toJson.Writable := by
  have stages : (Json.arr (report.stages.map StageReport.toJson)).Writable :=
    Json.writable_map fun stage mem => StageReport.writable_toJson (fits.stages stage mem)
  exact .obj (by simp [members, Json.Writable.bool, stages, fits.durationMs.writable])

/-- The texts of a report: its record in one of the two layouts, also as a line of its own. -/
inductive WrittenAs (report : RunReport) : String → Prop where
  | compact : WrittenAs report report.toJson.toCompact
  | pretty : WrittenAs report report.toJson.toPretty
  | prettyLine : WrittenAs report (report.toJson.toPretty ++ "\n")

/-- What is written of a report is read as the report. -/
theorem WrittenAs.read {report : RunReport} {raw : String} (written : report.WrittenAs raw)
    (fits : report.Fits) : (Json.parse? raw).bind ofJson? = some report := by
  have writable : report.toJson.Writable := writable_toJson fits
  have parsed : Json.parse? raw = some report.toJson := by
    cases written with
    | compact => exact Json.parse?_toCompact writable
    | pretty =>
      have nothing : Json.Spaces ("" : String).toList := Json.Spaces.nil
      simpa using Json.parse?_toPretty_append writable nothing
    | prettyLine => exact Json.parse?_toPretty writable
  rw [parsed, Option.bind_some, ofJson?_toJson fits]

/-- **Run reports come back.**  A report whose numbers have the sizes of their fields is what each
of its texts is read as, whatever its stages are called, have printed and have failed for.  So no
other report has a text with it in common. -/
theorem read_written {report : RunReport} (fits : report.Fits) :
    (∀ raw, report.WrittenAs raw → (Json.parse? raw).bind ofJson? = some report) ∧
      ∀ other : RunReport, other.Fits →
        ∀ raw, report.WrittenAs raw → other.WrittenAs raw → other = report := by
  refine ⟨fun raw written => written.read fits, ?_⟩
  intro other fitsOther raw written writtenOther
  have same : some other = some report := by
    rw [← writtenOther.read fitsOther, ← written.read fits]
  exact Option.some.inj same

/-- A report with an unknown signal, the largest and the least of its numbers, an empty list that is
not left out, and reasons about texts that have to be escaped. -/
def gradedReport : RunReport where
  success := false
  stages := [
    { stageId := "fmt", status := .succeeded,
      results := [⟨"fmt", 0, .exited 0, "a \"b\"\\\n\x01", "ü", 18446744073709551615⟩],
      narrowedTo := some [] },
    { stageId := "clippy", status := .failed (.signal none),
      results := [⟨"clippy", -1, .signaled none, "", "", 0⟩,
        ⟨"clippy", -2147483648, .timedOut 600000, "", "", 1⟩],
      narrowedTo := none },
    { stageId := "test", narrowedTo := some ["src/lib.rs"], results := [],
      status := .failed (.drift "u" [.missing, .algorithmMismatch .sha256 .sha512,
        .filesAdded ["\"x\"", "y\\z"], .duplicateSection "A" 2, .staleArtifact "0" "1"]) },
    .pending "audit"]
  durationMs := 18446744073709551615

theorem fits_gradedReport : gradedReport.Fits := by
  have code : Signed32 (-2147483648) ∧ Signed32 (-1) ∧ Signed32 0 := by decide
  have time : Unsigned64 18446744073709551615 ∧ Unsigned64 600000 ∧ Unsigned64 0 ∧ Unsigned64 1 ∧
    Unsigned64 2 := by decide
  simp [gradedReport, fits_iff, StageReport.fits_iff, StageReport.pending, StageStatus.Fits,
    Failure.Fits, DriftReason.Fits, ProcessResult.fits_iff, Termination.Fits, code, time]

/-- It comes back. -/
theorem read_written_graded :
    gradedReport.Fits ∧
      (Json.parse? gradedReport.toJson.toCompact).bind ofJson? = some gradedReport :=
  ⟨fits_gradedReport, (read_written fits_gradedReport).1 _ .compact⟩

end RunReport

end QualityGate
