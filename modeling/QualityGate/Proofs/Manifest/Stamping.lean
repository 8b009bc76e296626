import QualityGate.Proofs.Digest.Form
import QualityGate.Proofs.Manifest.Artifact

/-!
# What stamping does to the lines of an artifact

Stamping an artifact leaves one stamp, the new one, and of everything else at most blanks at the end
are lost (`stamp_exact`).  The lines before the new stamp are those that are no stamps, up to blank
ones at the end, and one blank line.

### What is load-bearing

* A kept line is written without the return that stood before its newline, and loses one more return
  when it is read again; so a line that ends with two of them changes.  No property of lines that the
  check looks at can see a return at the end.
* The last kept line is not blank (`isAllBlank_getLast?_keptLines`), so the blank line before the
  stamp is the only one there.
-/

namespace QualityGate.Artifact

open QualityGate.Text

/-- The last line that is kept is not blank. -/
theorem isAllBlank_getLast?_keptLines {text line : List Char}
    (last : line ∈ (keptLines text).getLast?) : isAllBlank line = false := by
  rw [keptLines, List.getLast?_reverse] at last
  have solid := List.head?_dropWhile_not isAllBlank
    ((lines text).filter fun line => (stampDigest? line).isNone).reverse
  rw [last] at solid
  exact solid

/-- A stamp does not end with a return. -/
theorem dropReturn_stampLine (digest : List Char) :
    dropReturn (stampLine digest) = stampLine digest := by
  have ends : (stampLine digest).getLast? = some '>' := by
    rw [stampLine, List.getLast?_append]
    rfl
  rw [dropReturn, ends]
  rfl

/-- The lines of a stamped text. -/
theorem lines_stampChars_eq {digest : List Char} (solid : ∀ c ∈ digest, isBlank c = false)
    (text : List Char) : lines (stampChars text digest) =
      (keptLines text).map dropReturn ++ (if keptLines text = [] then [] else [[]]) ++
        [stampLine digest] := by
  rw [lines_stampChars solid, stampedLines]
  by_cases none : keptLines text = []
  · simp [none, dropReturn_stampLine]
  · have blank : dropReturn [] = [] := rfl
    simp [none, dropReturn_stampLine, blank]

/-- **Stamping leaves exactly one stamp and no other change of structure.**  Let a digest have no
blanks, as no text of hexadecimal digits has.  The check for that digest says of the stamped text
what it said of the sections before, and nothing else; the titles are what they were; and the lines
are those that were no stamps, without the blank ones at their end and up to a return at the end of
each, then a blank one if there are any, and then the only stamp. -/
theorem stamp_exact {digest : String} (solid : ∀ c ∈ digest.toList, isBlank c = false)
    (text : String) :
    (∀ sections, check (stamp text digest) sections (some digest) =
        (check text sections none).filter DriftReason.isDuplicateSection) ∧
      titles (stamp text digest).toList = titles text.toList ∧
      stamps (stamp text digest).toList = [digest.toList] ∧
      ∃ kept blank : List (List Char),
        (lines text.toList).filter (fun line => (stampDigest? line).isNone) = kept ++ blank ∧
          (∀ line ∈ blank, isAllBlank line = true) ∧
          (∀ line ∈ kept.getLast?, isAllBlank line = false) ∧
          lines (stamp text digest).toList =
            kept.map dropReturn ++ (if kept = [] then [] else [[]]) ++
              [stampLine digest.toList] := by
  have chars : (stamp text digest).toList = stampChars text.toList digest.toList := by
    rw [stamp, String.toList_ofList]
  rw [chars]
  obtain ⟨blank, all, whole⟩ := exists_blank_keptLines text.toList
  refine ⟨fun sections => ?_, titles_stampChars solid, stamps_stampChars solid,
    keptLines text.toList, blank, whole.symm, all, fun line => isAllBlank_getLast?_keptLines,
    lines_stampChars_eq solid text.toList⟩
  rw [check_stamp solid, filter_check]

/-- A text with a fence that is left open, two stamps of which one is inside of it, a title that
occurs twice, and returns at the ends of lines. -/
def openFence : String :=
  "# Why\r\n<!-- qualities:manifest old -->\n## why #\r\r\n\x60\x60\x60\n# What\n" ++
    " <!-- qualities:manifest  x --> \n \t\n"

/-- It is stamped with the digest of nothing. -/
theorem stamp_exact_openFence :
    (∀ c ∈ (Algorithm.sha256.digest []).toList, isBlank c = false) ∧
      check (stamp openFence (Algorithm.sha256.digest [])) ["Why", "What"]
        (some (Algorithm.sha256.digest [])) = [.duplicateSection "Why" 2] ∧
      stamps (stamp openFence (Algorithm.sha256.digest [])).toList =
        [(Algorithm.sha256.digest []).toList] := by
  have solid : ∀ c ∈ (Algorithm.sha256.digest []).toList, isBlank c = false :=
    fun c mem => Algorithm.isBlank_of_isDigest (Algorithm.isDigest_digest _ _) mem
  obtain ⟨checked, -, single, -⟩ := stamp_exact solid openFence
  refine ⟨solid, ?_, single⟩
  rw [checked]
  decide +kernel

end QualityGate.Artifact
