import Mathlib.Tactic.SplitIfs
import QualityGate.Manifest.Artifact
import QualityGate.Proofs.Text.Trim

/-!
# Stamped artifacts

Stamping changes nothing about an artifact but its stamp: the titles are what they were
(`titles_stampChars`), and the new stamp is the only one (`stamps_stampChars`).  So an artifact that
has just been stamped is sound for the digest of its stamp, up to the sections that it had more than
once before (`check_stamp`).

### What is load-bearing

* Whether a line is a stamp, opens or closes a fence, or has a title does not depend on a carriage
  return at its end, which a line loses when it is read and written again (`dropReturn`).
* A stamp and a blank line neither open nor close a fence and have no title (`Inert`), so lines of
  this kind can be removed and added without a change to the titles, also inside a fence.
-/

namespace QualityGate.Artifact

open QualityGate.Text

/-! ### Carriage returns -/

theorem stampDigest?_dropReturn (line : List Char) :
    stampDigest? (dropReturn line) = stampDigest? line := by
  rw [stampDigest?, trim_dropReturn, stampDigest?]

/-- A carriage return at the end of a line stands at most behind the run of a fence. -/
theorem fenceRun?_append_return (line : List Char) :
    fenceRun? (line ++ ['\r']) =
      (fenceRun? line).map fun (c, length, rest) => (c, length, rest ++ ['\r']) := by
  unfold fenceRun?
  rw [trimStart_append isAllBlank_return]
  by_cases all : isAllBlank line = true
  · rw [if_pos all, isAllBlank_iff.mp all]
    rfl
  rw [if_neg all]
  cases trimStart line with
  | nil => rfl
  | cons c rest =>
    simp only [List.cons_append]
    by_cases fence : c = '\x60' ∨ c = '~'
    · have other : ('\r' == c) = false := by rcases fence with rfl | rfl <;> rfl
      obtain ⟨run, after⟩ := takeWhile_append_singleton (p := (· == c)) other rest
      rw [if_pos fence, if_pos fence, run, after]
      rfl
    · rw [if_neg fence, if_neg fence]
      rfl

theorem fenceAfter_append_return (fence : Option Fence) (line : List Char) :
    fenceAfter fence (line ++ ['\r']) = fenceAfter fence line := by
  have blank (rest : List Char) : isAllBlank (rest ++ ['\r']) = isAllBlank rest := by
    rw [isAllBlank, List.all_append, ← isAllBlank, ← isAllBlank, isAllBlank_return, Bool.and_true]
  unfold fenceAfter
  rw [fenceRun?_append_return]
  cases fence <;> cases fenceRun? line <;> simp [blank]

theorem headingTitle?_append_return (line : List Char) :
    headingTitle? (line ++ ['\r']) = headingTitle? line := by
  unfold headingTitle?
  rw [trimStart_append isAllBlank_return]
  by_cases all : isAllBlank line = true
  · rw [if_pos all, isAllBlank_iff.mp all]
  rw [if_neg all]
  obtain ⟨marks, -⟩ :=
    takeWhile_append_singleton (p := (· == '#')) (c := '\r') rfl (trimStart line)
  have inside : ((trimStart line).takeWhile (· == '#')).length ≤ (trimStart line).length :=
    (List.takeWhile_prefix _).length_le
  simp only [marks, List.drop_append_of_le_length inside]
  cases (trimStart line).drop ((trimStart line).takeWhile (· == '#')).length with
  | nil => simp
  | cons c rest =>
    have trimmed : trim (c :: (rest ++ ['\r'])) = trim (c :: rest) :=
      trim_append isAllBlank_return (c :: rest)
    simp only [List.cons_append, trimmed]

/-- A property of lines that a carriage return does not change is one of lines without it. -/
theorem eq_dropReturn {α : Type} {f : List Char → α} (same : ∀ line, f (line ++ ['\r']) = f line)
    (line : List Char) : f (dropReturn line) = f line := by
  rcases dropReturn_cases line with unchanged | whole
  · rw [unchanged]
  · have last := same (dropReturn line)
    rw [← whole] at last
    exact last.symm

theorem fenceAfter_dropReturn (fence : Option Fence) (line : List Char) :
    fenceAfter fence (dropReturn line) = fenceAfter fence line :=
  eq_dropReturn (fenceAfter_append_return fence) line

theorem headingTitle?_dropReturn (line : List Char) :
    headingTitle? (dropReturn line) = headingTitle? line :=
  eq_dropReturn headingTitle?_append_return line

theorem titlesFrom_map_dropReturn (fence : Option Fence) (lines : List (List Char)) :
    titlesFrom fence (lines.map dropReturn) = titlesFrom fence lines := by
  induction lines generalizing fence with
  | nil => rfl
  | cons line rest ih =>
    rw [List.map_cons, titlesFrom, titlesFrom, titleOn?, fenceAfter_dropReturn,
      fenceAfter_dropReturn, headingTitle?_dropReturn, ih]
    rfl

/-! ### Stamps and blank lines -/

/-- A line that neither opens nor closes a fence and has no title. -/
structure Inert (line : List Char) : Prop where
  noFence : fenceRun? line = none
  noTitle : headingTitle? line = none

/-- What begins with neither the character of a fence nor a number sign is inert. -/
theorem inert_of_head? {line : List Char}
    (begins : ∀ c ∈ (trimStart line).head?, c ≠ '\x60' ∧ c ≠ '~' ∧ c ≠ '#') : Inert line := by
  cases text : trimStart line with
  | nil => exact ⟨by simp [fenceRun?, text], by simp [headingTitle?, text]⟩
  | cons c rest =>
    obtain ⟨noBacktick, noTilde, noMark⟩ := begins c (by rw [text]; rfl)
    exact ⟨by simp [fenceRun?, text, noBacktick, noTilde], by simp [headingTitle?, text, noMark]⟩

theorem inert_of_isAllBlank {line : List Char} (blank : isAllBlank line = true) : Inert line :=
  inert_of_head? (by simp [isAllBlank_iff.mp blank])

theorem exists_stampStart_eq_cons : ∃ more, stampStart = '<' :: more := ⟨_, rfl⟩

/-- A stamp begins with the start of a stamp. -/
theorem inert_of_stampDigest? {line digest : List Char} (stamp : stampDigest? line = some digest) :
    Inert line := by
  obtain ⟨rest, starts, -⟩ := Option.bind_eq_some_iff.mp stamp
  obtain ⟨blanks, whole⟩ := trimEnd_prefix (trimStart line)
  rw [← trim, stripPrefix?_eq_some_iff.mp starts] at whole
  obtain ⟨more, begins⟩ := exists_stampStart_eq_cons
  refine inert_of_head? fun c first => ?_
  rw [← whole, begins] at first
  have same : '<' = c := Option.some.inj first
  exact same ▸ by decide

theorem titlesFrom_cons_of_inert {line : List Char} (inert : Inert line) (fence : Option Fence)
    (rest : List (List Char)) : titlesFrom fence (line :: rest) = titlesFrom fence rest := by
  have unchanged (fence : Option Fence) : fenceAfter fence line = fence := by
    cases fence <;> simp [fenceAfter, inert.noFence]
  rw [titlesFrom, titleOn?, inert.noTitle, unchanged fence]
  simp

/-- Inert lines can be left out. -/
theorem titlesFrom_filter {keep : List Char → Bool} (inert : ∀ line, keep line = false → Inert line)
    (fence : Option Fence) (lines : List (List Char)) :
    titlesFrom fence (lines.filter keep) = titlesFrom fence lines := by
  induction lines generalizing fence with
  | nil => rfl
  | cons line rest ih =>
    cases kept : keep line with
    | true => rw [List.filter_cons_of_pos kept, titlesFrom, titlesFrom, ih]
    | false =>
      rw [List.filter_cons_of_neg (by simp [kept]), titlesFrom_cons_of_inert (inert line kept), ih]

/-- Inert lines at the end can be left out. -/
theorem titlesFrom_append_of_inert {tail : List (List Char)} (inert : ∀ line ∈ tail, Inert line)
    (fence : Option Fence) (lines : List (List Char)) :
    titlesFrom fence (lines ++ tail) = titlesFrom fence lines := by
  induction lines generalizing fence with
  | nil =>
    induction tail with
    | nil => rfl
    | cons line rest ih =>
      rw [List.forall_mem_cons] at inert
      rw [List.nil_append, titlesFrom_cons_of_inert inert.1]
      exact ih inert.2
  | cons line rest ih => rw [List.cons_append, titlesFrom, titlesFrom, ih]

/-! ### Kept lines -/

/-- The kept lines and blank ones behind them are the lines that are no stamps. -/
theorem exists_blank_keptLines (text : List Char) :
    ∃ blank : List (List Char), (∀ line ∈ blank, isAllBlank line = true) ∧
      keptLines text ++ blank = (lines text).filter fun line => (stampDigest? line).isNone := by
  refine ⟨(((lines text).filter fun line => (stampDigest? line).isNone).reverse.takeWhile
    isAllBlank).reverse, fun line mem => ?_, ?_⟩
  · exact List.mem_takeWhile_imp (List.mem_reverse.mp mem)
  · rw [keptLines, ← List.reverse_append, List.takeWhile_append_dropWhile, List.reverse_reverse]

theorem titlesFrom_keptLines (text : List Char) :
    titlesFrom none (keptLines text) = titles text := by
  obtain ⟨blank, all, whole⟩ := exists_blank_keptLines text
  have inert (line : List Char) (stamp : (stampDigest? line).isNone = false) : Inert line := by
    obtain ⟨digest, found⟩ := Option.isSome_iff_exists.mp (by simpa using stamp)
    exact inert_of_stampDigest? found
  rw [← titlesFrom_append_of_inert (fun line mem => inert_of_isAllBlank (all line mem)), whole,
    titlesFrom_filter inert, titles]

theorem keptLines_ne_blank (text : List Char) : keptLines text ≠ [[]] := by
  intro only
  have first : (((lines text).filter fun line =>
      (stampDigest? line).isNone).reverse.dropWhile isAllBlank) = [[]] := by
    rw [← List.reverse_reverse (List.dropWhile _ _), ← keptLines, only]
    rfl
  have some := (congrArg (· ≠ []) first).mpr (List.cons_ne_nil _ _)
  have solid := List.head_dropWhile_not isAllBlank some
  simp [first, isAllBlank] at solid

theorem of_mem_keptLines {text line : List Char} (mem : line ∈ keptLines text) :
    '\n' ∉ line ∧ stampDigest? line = none := by
  obtain ⟨blank, -, whole⟩ := exists_blank_keptLines text
  have kept : line ∈ (lines text).filter fun line => (stampDigest? line).isNone := by
    rw [← whole]
    exact List.mem_append_left _ mem
  obtain ⟨known, noStamp⟩ := List.mem_filter.mp kept
  exact ⟨newline_notMem_of_mem_lines known, Option.isNone_iff_eq_none.mp noStamp⟩

/-! ### The stamped text -/

/-- The lines of a stamped text: the kept ones, and the stamp after a blank one. -/
def stampedLines (text digest : List Char) : List (List Char) :=
  if keptLines text = [] then [stampLine digest] else keptLines text ++ [[], stampLine digest]

theorem stampChars_eq (text digest : List Char) :
    stampChars text digest = joinWith ['\n'] (stampedLines text digest ++ [[]]) := by
  unfold stampChars stampedLines
  by_cases none : keptLines text = []
  · simp [none]
  · have some : joinWith ['\n'] (keptLines text) ≠ [] := by
      intro nothing
      rcases joinWith_singleton_eq_nil nothing with empty | blank
      · exact none empty
      · exact keptLines_ne_blank text blank
    simp only [if_neg none, List.isEmpty_iff, if_neg some]
    rw [List.append_assoc (keptLines text), joinWith_append none (by simp)]
    simp

section Stamped

variable {text digest : List Char} (solid : ∀ c ∈ digest, isBlank c = false)
include solid

theorem stampDigest?_stampLine : stampDigest? (stampLine digest) = some digest := by
  obtain ⟨more, begins⟩ := exists_stampStart_eq_cons
  have ends : stampEnd.getLast? = some '>' := rfl
  have first : (stampLine digest).head? = some '<' := by
    rw [stampLine, begins]
    rfl
  have last : (stampLine digest).getLast? = some '>' := by
    rw [stampLine, List.getLast?_append, ends]
    rfl
  have whole := trim_eq_self first last ⟨rfl, rfl⟩
  have trimmed := trim_of_solid solid
  have start : stripPrefix? stampStart (stampLine digest) = some (digest ++ stampEnd) :=
    stripPrefix?_eq_some_iff.mpr (List.append_assoc _ _ _)
  have finish : stripSuffix? stampEnd (digest ++ stampEnd) = some digest :=
    stripSuffix?_eq_some_iff.mpr rfl
  rw [stampDigest?, whole, start, Option.bind_some, finish, Option.map_some, trimmed]

theorem lines_stampChars :
    lines (stampChars text digest) = (stampedLines text digest).map dropReturn := by
  have stamp : '\n' ∉ stampLine digest := by
    have inDigest : '\n' ∉ digest := fun mem => absurd (solid _ mem) (by decide)
    simp only [stampLine, List.mem_append, not_or]
    exact ⟨⟨by decide, inDigest⟩, by decide⟩
  rw [stampChars_eq]
  refine lines_joinWith fun line mem => ?_
  unfold stampedLines at mem
  split_ifs at mem with none
  · rw [List.mem_singleton.mp mem]
    exact stamp
  · rcases List.mem_append.mp mem with kept | added
    · exact (of_mem_keptLines kept).1
    · rcases List.mem_cons.mp added with rfl | last
      · simp
      · rw [List.mem_singleton.mp last]
        exact stamp

/-- The new stamp is the only one. -/
theorem stamps_stampChars : stamps (stampChars text digest) = [digest] := by
  have kept : (keptLines text).filterMap stampDigest? = [] :=
    List.filterMap_eq_nil_iff.mpr fun line mem => (of_mem_keptLines mem).2
  have stamp := stampDigest?_stampLine solid
  have blank : stampDigest? [] = none := rfl
  rw [stamps, lines_stampChars solid, List.filterMap_map]
  have same : stampDigest? ∘ dropReturn = stampDigest? := funext stampDigest?_dropReturn
  rw [same, stampedLines]
  split_ifs
  · simp [stamp]
  · simp [kept, stamp, blank]

/-- The titles are what they were. -/
theorem titles_stampChars : titles (stampChars text digest) = titles text := by
  have stamp := inert_of_stampDigest? (stampDigest?_stampLine solid)
  have blank : Inert [] := inert_of_isAllBlank rfl
  rw [titles, lines_stampChars solid, titlesFrom_map_dropReturn, ← titlesFrom_keptLines,
    stampedLines]
  split_ifs with none
  · rw [none, titlesFrom_cons_of_inert stamp]
  · exact titlesFrom_append_of_inert (by simp [blank, stamp]) _ _

end Stamped

/-- A stamped artifact is judged by its sections, as before, and by its one stamp. -/
theorem check_stamp_eq {text digest : String} (solid : ∀ c ∈ digest.toList, isBlank c = false)
    (sections : List String) (live : Option String) :
    check (stamp text digest) sections live =
      duplicateSections text.toList sections ++ stampReasons [digest.toList] live := by
  have same : duplicateSections (stampChars text.toList digest.toList) sections =
      duplicateSections text.toList sections := by
    rw [duplicateSections, titles_stampChars solid, duplicateSections]
  rw [check, stamp, String.toList_ofList, stamps_stampChars solid, same]

/-- A single stamp is no reason when there is nothing to compare it with, or it is the same. -/
theorem stampReasons_singleton_eq_nil_iff {digest : String} {live : Option String} :
    stampReasons [digest.toList] live = [] ↔ ∀ other, live = some other → other = digest := by
  cases live with
  | none => simp [stampReasons]
  | some other => simp [stampReasons, String.toList_inj, eq_comm]

/-- **A stamped artifact is sound for the digest of its stamp**, up to the sections that occurred
more than once before. -/
theorem check_stamp {text digest : String} (solid : ∀ c ∈ digest.toList, isBlank c = false)
    (sections : List String) :
    check (stamp text digest) sections (some digest) = duplicateSections text.toList sections := by
  rw [check_stamp_eq solid, stampReasons_singleton_eq_nil_iff.mpr (by simp), List.append_nil]

end QualityGate.Artifact

/-! ### Reasons about sections -/

namespace QualityGate

/-- Whether a reason is that a section occurs more than once. -/
def DriftReason.isDuplicateSection : DriftReason → Bool
  | duplicateSection _ _ => true
  | _ => false

/-- None of the reasons is about sections. -/
def NoSections (reasons : List DriftReason) : Prop :=
  reasons.filter DriftReason.isDuplicateSection = []

theorem noSections_iff {reasons : List DriftReason} :
    NoSections reasons ↔ ∀ reason ∈ reasons, reason.isDuplicateSection = false := by
  simp [NoSections, List.filter_eq_nil_iff]

theorem NoSections.append {front back : List DriftReason} (first : NoSections front)
    (second : NoSections back) : NoSections (front ++ back) := by
  rw [NoSections, List.filter_append, first, second, List.append_nil]

namespace Artifact

theorem filter_duplicateSections (text : List Char) (sections : List String) :
    (duplicateSections text sections).filter DriftReason.isDuplicateSection =
      duplicateSections text sections := by
  refine List.filter_eq_self.mpr fun reason mem => ?_
  obtain ⟨title, -, found⟩ := List.mem_filterMap.mp mem
  simp only [Option.ite_none_right_eq_some, Option.some.injEq] at found
  rw [← found.2]
  rfl

theorem noSections_stampReasons (stamps : List (List Char)) (live : Option String) :
    NoSections (stampReasons stamps live) := by
  unfold stampReasons
  split
  · rfl
  · split
    · split <;> rfl
    · rfl
  · rfl

/-- What a check says of sections does not depend on the stamps. -/
theorem filter_check (text : String) (sections : List String) (live : Option String) :
    (check text sections live).filter DriftReason.isDuplicateSection =
      duplicateSections text.toList sections := by
  rw [check, List.filter_append, filter_duplicateSections, noSections_stampReasons, List.append_nil]

end Artifact

end QualityGate
