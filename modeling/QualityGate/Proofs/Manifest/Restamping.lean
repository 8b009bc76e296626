import QualityGate.Proofs.Digest.Form
import QualityGate.Proofs.Manifest.Stamping

/-!
# Stamping an artifact again

A stamped text is stamped again as the text it was made from, except that each of its lines loses
one more carriage return when it is read again (`keptLines_stampChars`).  So a second stamp replaces
the first one and nothing else exactly if no line that is kept ends with a return
(`restamp_eq_iff`).

Such a line is one that is written with two returns before its newline, or the last one, when it
ends with a return and no newline follows.  Each stamp takes one of its returns away
(`restamping_loses_return`).

### What is load-bearing

A stamped text determines the lines that were kept (`stampChars_inj`): none of them holds a newline,
and they are not a single blank line, whose text would be that of no lines at all.
-/

namespace QualityGate.Artifact

open QualityGate.Text

/-! ### Lines that are kept again -/

/-- Of the lines that are no stamps, those are kept that end with one that is not blank, if only
blank ones come behind it. -/
theorem keptLines_eq {text : List Char} {kept blank : List (List Char)}
    (whole : (lines text).filter (fun line => (stampDigest? line).isNone) = kept ++ blank)
    (all : ∀ line ∈ blank, isAllBlank line = true)
    (last : ∀ line ∈ kept.getLast?, isAllBlank line = false) : keptLines text = kept := by
  have dropped : kept.reverse.dropWhile isAllBlank = kept.reverse := by
    rw [← List.head?_reverse] at last
    cases behind : kept.reverse with
    | nil => rfl
    | cons line front =>
      rw [behind] at last
      exact List.dropWhile_cons_of_neg (by rw [last line rfl]; exact Bool.false_ne_true)
  rw [keptLines, whole, List.reverse_append,
    List.dropWhile_append_of_pos fun line mem => all line (List.mem_reverse.mp mem), dropped,
    List.reverse_reverse]

theorem isAllBlank_dropReturn (line : List Char) :
    isAllBlank (dropReturn line) = isAllBlank line := by
  refine eq_dropReturn (fun line => ?_) line
  rw [isAllBlank, List.all_append, ← isAllBlank, ← isAllBlank, isAllBlank_return, Bool.and_true]

/-- A line ends without a return exactly if reading it leaves it as it is. -/
theorem dropReturn_eq_self_iff {line : List Char} :
    dropReturn line = line ↔ line.getLast? ≠ some '\r' := by
  constructor
  · intro same ends
    obtain ⟨front, rfl⟩ := List.getLast?_eq_some_iff.mp ends
    have shorter := congrArg List.length same
    simp [dropReturn] at shorter
  · intro other
    rw [dropReturn]
    split
    · next ends => exact absurd ends other
    · rfl

/-- **What is kept of a stamped text** is what was kept before, but every line loses one return. -/
theorem keptLines_stampChars {digest : List Char} (solid : ∀ c ∈ digest, isBlank c = false)
    (text : List Char) :
    keptLines (stampChars text digest) = (keptLines text).map dropReturn := by
  have stays : ((keptLines text).map dropReturn).filter (fun line => (stampDigest? line).isNone) =
      (keptLines text).map dropReturn := by
    refine List.filter_eq_self.mpr fun line mem => ?_
    obtain ⟨kept, known, rfl⟩ := List.mem_map.mp mem
    rw [stampDigest?_dropReturn, (of_mem_keptLines known).2]
    rfl
  have goes : [stampLine digest].filter (fun line => (stampDigest? line).isNone) = [] := by
    simp [stampDigest?_stampLine solid]
  have between : (if keptLines text = [] then [] else [[]]).filter
      (fun line => (stampDigest? line).isNone) = if keptLines text = [] then [] else [[]] := by
    split_ifs <;> rfl
  have whole : (lines (stampChars text digest)).filter (fun line => (stampDigest? line).isNone) =
      (keptLines text).map dropReturn ++ if keptLines text = [] then [] else [[]] := by
    rw [lines_stampChars_eq solid, List.filter_append, List.filter_append, stays, goes, between,
      List.append_nil]
  refine keptLines_eq whole (fun line mem => ?_) fun line last => ?_
  · split_ifs at mem
    · cases mem
    · rw [List.mem_singleton.mp mem]
      rfl
  · rw [List.getLast?_map] at last
    obtain ⟨kept, ends, rfl⟩ := Option.map_eq_some_iff.mp last
    rw [isAllBlank_dropReturn, isAllBlank_getLast?_keptLines ends]

/-- Texts that are stamped alike have the same lines that are kept. -/
theorem stampChars_inj {text other digest : List Char} :
    stampChars text digest = stampChars other digest ↔ keptLines text = keptLines other := by
  have split {text : List Char} (some : keptLines text ≠ []) :
      splitOn '\n' (joinWith ['\n'] (keptLines text)) = keptLines text :=
    splitOn_joinWith some fun line mem => (of_mem_keptLines mem).1
  have some_of_ne_nil {text : List Char} (some : joinWith ['\n'] (keptLines text) ≠ []) :
      keptLines text ≠ [] := fun none => some (by rw [none, joinWith_nil])
  have none_of_nil {text : List Char} (nothing : joinWith ['\n'] (keptLines text) = []) :
      keptLines text = [] :=
    (joinWith_singleton_eq_nil nothing).resolve_right (keptLines_ne_blank text)
  constructor
  · intro same
    have fronts := List.append_cancel_right (List.append_cancel_right same)
    simp only [List.isEmpty_iff] at fronts
    split_ifs at fronts with first second second
    · rw [none_of_nil first, none_of_nil second]
    · simp at fronts
    · simp at fronts
    · have joined := List.append_cancel_right fronts
      rw [← split (some_of_ne_nil first), ← split (some_of_ne_nil second), joined]
  · intro same
    rw [stampChars, stampChars, same]

/-! ### The second stamp -/

/-- A second stamp leaves what the first one would have left, unless there is a return to lose. -/
theorem stampChars_stampChars_eq_iff {first : List Char} (solid : ∀ c ∈ first, isBlank c = false)
    (text second : List Char) :
    stampChars (stampChars text first) second = stampChars text second ↔
      ∀ line ∈ keptLines text, line.getLast? ≠ some '\r' := by
  rw [stampChars_inj, keptLines_stampChars solid]
  simp only [← dropReturn_eq_self_iff]
  constructor
  · intro same line mem
    exact List.map_eq_map_iff.mp (same.trans (List.map_id _).symm) line mem
  · intro unchanged
    exact (List.map_congr_left unchanged).trans (List.map_id' _)

/-- **When a second stamp replaces the first.**  Let a digest have no blanks, as no text of
hexadecimal digits has.  Stamping with it and then with another one gives what the second stamp
alone gives, exactly if no line that is kept ends with a carriage return. -/
theorem restamp_eq_iff {first : String} (solid : ∀ c ∈ first.toList, isBlank c = false)
    (text second : String) :
    stamp (stamp text first) second = stamp text second ↔
      ∀ line ∈ keptLines text.toList, line.getLast? ≠ some '\r' := by
  rw [← stampChars_stampChars_eq_iff solid text.toList second.toList, stamp, stamp, stamp,
    String.toList_ofList, String.ofList_inj]

/-- Windows line ends and a line with a return in it are no obstacle. -/
theorem restamp_eq_iff_windows :
    (∀ c ∈ (Algorithm.sha256.digest []).toList, isBlank c = false) ∧
      stamp (stamp "# Why\r\na\rb\r\n\r\r\n" (Algorithm.sha256.digest [])) "f" =
        stamp "# Why\r\na\rb\r\n\r\r\n" "f" := by
  have solid : ∀ c ∈ (Algorithm.sha256.digest []).toList, isBlank c = false :=
    fun c mem => Algorithm.isBlank_of_isDigest (Algorithm.isDigest_digest _ _) mem
  refine ⟨solid, (restamp_eq_iff solid _ _).mpr ?_⟩
  have kept : keptLines "# Why\r\na\rb\r\n\r\r\n".toList = ["# Why".toList, "a\rb".toList] := by
    decide +kernel
  rw [kept]
  decide

/-- **A second stamp takes a return away.**  The line of this text ends with two of them. -/
theorem restamping_loses_return :
    stamp (stamp "a\r\r\n" (Algorithm.sha256.digest [])) (Algorithm.sha256.digest []) ≠
      stamp "a\r\r\n" (Algorithm.sha256.digest []) := by
  decide +kernel

end QualityGate.Artifact
