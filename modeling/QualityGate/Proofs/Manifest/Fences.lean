import QualityGate.Proofs.Manifest.Artifact

/-!
# Headings outside of fences

The lines of an artifact are read as blocks: lines outside of fences, and fences.  The readings
differ in what opens a fence.

* `Reading` – how lines fall into blocks, for a given way to open a fence.  There is exactly one
  reading (`exists_reading`, `Reading.unique`).
* `Opens` – a run of three or more backticks or tildes at the start of a line opens a fence, but not
  when another backtick follows a run of backticks: such a line is a code span (`CodeSpan`).
* `LongRun` – any such run opens a fence.  This is what the titles of an artifact follow
  (`titlesFrom_eq_of_reading`).
* `duplicates_reported_iff` says when the sections that occur more than once outside of fences are
  reported all the same: exactly when the second reading leaves as many of their headings outside.
  In particular it does if there is no code span outside of fences.
* `codeSpan_hides_duplicates` is a text for which it does not.

### What is load-bearing

Both readings close a fence alike.  So they part at the first code span outside of fences, which one
of them takes for the beginning of a fence, and they may meet again where that fence is closed.
-/

namespace QualityGate.Artifact

open QualityGate.Text

/-! ### Runs and fences -/

/-- A line begins, behind blanks, with `length` times this character, which does not come next. -/
def StartsWithRun (line : List Char) (c : Char) (length : Nat) (rest : List Char) : Prop :=
  trimStart line = List.replicate length c ++ rest ∧ rest.head? ≠ some c

/-- A line opens a fence: a code span does not. -/
inductive Opens (line : List Char) : Fence → Prop where
  | backticks {length : Nat} {rest : List Char} (run : StartsWithRun line '\x60' length rest)
      (long : 3 ≤ length) (last : '\x60' ∉ rest) : Opens line ('\x60', length)
  | tildes {length : Nat} {rest : List Char} (run : StartsWithRun line '~' length rest)
      (long : 3 ≤ length) : Opens line ('~', length)

/-- A line begins with a run that is long enough for a fence. -/
inductive LongRun (line : List Char) : Fence → Prop where
  | run {c : Char} {length : Nat} {rest : List Char} (mark : c = '\x60' ∨ c = '~')
      (run : StartsWithRun line c length rest) (long : 3 ≤ length) : LongRun line (c, length)

/-- A line begins with a run of backticks that is long enough for a fence, and another backtick
follows. -/
def CodeSpan (line : List Char) : Prop :=
  ∃ length rest, StartsWithRun line '\x60' length rest ∧ 3 ≤ length ∧ '\x60' ∈ rest

/-- A line closes a fence: it holds nothing but a run of the same character that is long enough. -/
def Closes (fence : Fence) (line : List Char) : Prop :=
  ∃ length rest, StartsWithRun line fence.1 length rest ∧ fence.2 ≤ length ∧ isAllBlank rest = true

/-- How lines fall into blocks, and which of them are outside of fences.  A fence ends with the
first line that closes it, or with the lines. -/
inductive Reading (opens : List Char → Fence → Prop) :
    List (List Char) → List (List Char) → Prop where
  | done : Reading opens [] []
  | outside {line : List Char} {lines out : List (List Char)} (plain : ∀ fence, ¬ opens line fence)
      (later : Reading opens lines out) : Reading opens (line :: lines) (line :: out)
  | fenced {line last : List Char} {fence : Fence} {body lines out : List (List Char)}
      (opened : opens line fence) (inside : ∀ line ∈ body, ¬ Closes fence line)
      (closed : Closes fence last) (later : Reading opens lines out) :
      Reading opens (line :: (body ++ last :: lines)) out
  | unclosed {line : List Char} {fence : Fence} {body : List (List Char)}
      (opened : opens line fence) (inside : ∀ line ∈ body, ¬ Closes fence line) :
      Reading opens (line :: body) []

/-- Lines up to the first that closes a fence, or all of them. -/
theorem exists_closed_or_open (fence : Fence) (lines : List (List Char)) :
    (∃ body last rest, lines = body ++ last :: rest ∧ (∀ line ∈ body, ¬ Closes fence line) ∧
      Closes fence last) ∨ ∀ line ∈ lines, ¬ Closes fence line := by
  induction lines with
  | nil => exact Or.inr nofun
  | cons line lines ih =>
    by_cases closes : Closes fence line
    · exact Or.inl ⟨[], line, lines, rfl, nofun, closes⟩
    · rcases ih with ⟨body, last, rest, rfl, inside, closed⟩ | inside
      · exact Or.inl ⟨line :: body, last, rest, rfl, List.forall_mem_cons.mpr ⟨closes, inside⟩,
          closed⟩
      · exact Or.inr (List.forall_mem_cons.mpr ⟨closes, inside⟩)

/-- Every text has a reading. -/
theorem exists_reading (opens : List Char → Fence → Prop) (lines : List (List Char)) :
    ∃ out, Reading opens lines out := by
  induction size : lines.length using Nat.strongRecOn generalizing lines with
  | ind n ih =>
  cases lines with
  | nil => exact ⟨[], .done⟩
  | cons line lines =>
    rw [List.length_cons] at size
    by_cases opened : ∃ fence, opens line fence
    · obtain ⟨fence, opened⟩ := opened
      rcases exists_closed_or_open fence lines with ⟨body, last, rest, rfl, inside, closed⟩ | inside
      · rw [List.length_append, List.length_cons] at size
        obtain ⟨out, later⟩ := ih rest.length (by omega) rest rfl
        exact ⟨out, .fenced opened inside closed later⟩
      · exact ⟨[], .unclosed opened inside⟩
    · obtain ⟨out, later⟩ := ih lines.length (by omega) lines rfl
      exact ⟨line :: out, .outside (not_exists.mp opened) later⟩

/-- The first line that closes a fence is where it is. -/
theorem eq_of_first_closes {fence : Fence} {body body' lines lines' : List (List Char)}
    {last last' : List Char} (inside : ∀ line ∈ body, ¬ Closes fence line)
    (inside' : ∀ line ∈ body', ¬ Closes fence line) (closed : Closes fence last)
    (closed' : Closes fence last') (same : body ++ last :: lines = body' ++ last' :: lines') :
    lines = lines' := by
  induction body generalizing body' with
  | nil =>
    cases body' with
    | nil => exact (List.cons.inj same).2
    | cons line body' =>
      obtain ⟨rfl, -⟩ := List.cons.inj same
      exact absurd closed (inside' last List.mem_cons_self)
  | cons line body ih =>
    cases body' with
    | nil =>
      obtain ⟨rfl, -⟩ := List.cons.inj same
      exact absurd closed' (inside line List.mem_cons_self)
    | cons line' body' =>
      exact ih (List.forall_mem_cons.mp inside).2 (List.forall_mem_cons.mp inside').2
        (List.cons.inj same).2

/-- There is no other reading when a line opens at most one fence. -/
theorem Reading.unique {opens : List Char → Fence → Prop}
    (functional : ∀ {line fence fence'}, opens line fence → opens line fence' → fence = fence')
    {lines out other : List (List Char)} (first : Reading opens lines out)
    (second : Reading opens lines other) : out = other := by
  induction first generalizing other with
  | done =>
    cases second
    rfl
  | outside plain later ih =>
    cases second with
    | outside _ later' => rw [ih later']
    | fenced opened => exact absurd opened (plain _)
    | unclosed opened => exact absurd opened (plain _)
  | @fenced line last fence body lines out opened inside closed later ih =>
    generalize whole : line :: (body ++ last :: lines) = all at second
    cases second with
    | done => cases whole
    | outside plain =>
      obtain ⟨rfl, -⟩ := List.cons.inj whole
      exact absurd opened (plain _)
    | fenced opened' inside' closed' later' =>
      obtain ⟨rfl, behind⟩ := List.cons.inj whole
      obtain rfl := functional opened opened'
      obtain rfl := eq_of_first_closes inside inside' closed closed' behind
      exact ih later'
    | unclosed opened' inside' =>
      obtain ⟨rfl, rfl⟩ := List.cons.inj whole
      obtain rfl := functional opened opened'
      exact absurd closed (inside' last (List.mem_append_right _ List.mem_cons_self))
  | @unclosed line fence body opened inside =>
    generalize whole : line :: body = all at second
    cases second with
    | done => cases whole
    | outside plain =>
      obtain ⟨rfl, -⟩ := List.cons.inj whole
      exact absurd opened (plain _)
    | fenced opened' inside' closed' later' =>
      obtain ⟨rfl, rfl⟩ := List.cons.inj whole
      obtain rfl := functional opened opened'
      exact absurd closed' (inside _ (List.mem_append_right _ List.mem_cons_self))
    | unclosed => rfl

/-! ### What a line is taken for -/

/-- The run at the start of a line, in terms of its characters. -/
theorem fenceRun?_eq_some_iff {line rest : List Char} {c : Char} {length : Nat} :
    fenceRun? line = some (c, length, rest) ↔
      (c = '\x60' ∨ c = '~') ∧ 0 < length ∧ StartsWithRun line c length rest := by
  unfold fenceRun? StartsWithRun
  constructor
  · intro found
    split at found
    · cases found
    · next more text =>
      split at found
      · next mark =>
        cases found
        refine ⟨mark, by omega, ?_, ?_⟩
        · have run : more.takeWhile (· == c) =
              List.replicate (more.takeWhile (· == c)).length c :=
            List.eq_replicate_of_mem fun d mem => by simpa using List.mem_takeWhile_imp mem
          rw [text, Nat.add_comm, List.replicate_succ, List.cons_append, ← run,
            List.takeWhile_append_dropWhile]
        · intro next
          have other := List.head?_dropWhile_not (· == c) more
          rw [next] at other
          simp at other
      · cases found
  · rintro ⟨mark, some, text, next⟩
    obtain ⟨length, rfl⟩ := Nat.exists_eq_succ_of_ne_zero (Nat.ne_of_gt some)
    rw [text, List.replicate_succ, List.cons_append]
    have stops : rest.takeWhile (· == c) = [] ∧ rest.dropWhile (· == c) = rest := by
      cases rest with
      | nil => exact ⟨rfl, rfl⟩
      | cons d rest =>
        have other : (d == c) = false := by simpa using next
        exact ⟨List.takeWhile_cons_of_neg (by simp [other]),
          List.dropWhile_cons_of_neg (by simp [other])⟩
    have all : ∀ d ∈ List.replicate length c, (d == c) = true := by simp
    simp only [if_pos mark, List.takeWhile_append_of_pos all, List.dropWhile_append_of_pos all,
      stops, List.append_nil, List.length_replicate, Nat.succ_eq_add_one, Nat.add_comm]

/-- A line outside of fences opens one exactly if it begins with a long run. -/
theorem fenceAfter_none_eq_some_iff {line : List Char} {fence : Fence} :
    fenceAfter none line = some fence ↔ LongRun line fence := by
  unfold fenceAfter
  constructor
  · intro opened
    cases run : fenceRun? line with
    | none =>
      rw [run] at opened
      cases opened
    | some found =>
      obtain ⟨c, length, rest⟩ := found
      rw [run] at opened
      simp only [Option.ite_none_right_eq_some, Option.some.injEq] at opened
      obtain ⟨long, rfl⟩ := opened
      obtain ⟨mark, -, run⟩ := fenceRun?_eq_some_iff.mp run
      exact .run mark run long
  · rintro ⟨mark, run, long⟩
    rw [fenceRun?_eq_some_iff.mpr ⟨mark, by omega, run⟩]
    simp [long]

/-- A line in a fence closes it, or leaves it open. -/
theorem fenceAfter_some {opener line : List Char} {fence : Fence} (opened : LongRun opener fence) :
    (Closes fence line → fenceAfter (some fence) line = none) ∧
      (¬ Closes fence line → fenceAfter (some fence) line = some fence) := by
  obtain ⟨mark, -, long⟩ := opened
  constructor
  · rintro ⟨length, rest, run, enough, blank⟩
    unfold fenceAfter
    rw [fenceRun?_eq_some_iff.mpr ⟨mark, by dsimp only at enough; omega, run⟩]
    simpa [blank] using enough
  · intro stays
    unfold fenceAfter
    cases run : fenceRun? line with
    | none => rfl
    | some found =>
      obtain ⟨d, length, rest⟩ := found
      refine if_neg ?_
      rintro ⟨rfl, enough, blank⟩
      exact stays ⟨length, rest, (fenceRun?_eq_some_iff.mp run).2.2, enough, blank⟩

/-- There are no titles in a fence. -/
theorem titlesFrom_inside {opener : List Char} {fence : Fence} (opened : LongRun opener fence)
    {body : List (List Char)} (inside : ∀ line ∈ body, ¬ Closes fence line)
    (lines : List (List Char)) :
    titlesFrom (some fence) (body ++ lines) = titlesFrom (some fence) lines := by
  induction body with
  | nil => rfl
  | cons line body ih =>
    obtain ⟨first, later⟩ := List.forall_mem_cons.mp inside
    rw [List.cons_append, titlesFrom, (fenceAfter_some opened).2 first, ih later]
    rfl

/-- **The titles of some lines** are those of the lines that are outside of fences when every long
run opens one. -/
theorem titlesFrom_eq_of_reading {lines out : List (List Char)}
    (reading : Reading LongRun lines out) :
    titlesFrom none lines = out.filterMap headingTitle? := by
  have enters {line : List Char} {fence : Fence} (opened : LongRun line fence)
      (lines : List (List Char)) :
      titlesFrom none (line :: lines) = titlesFrom (some fence) lines := by
    have entered := fenceAfter_none_eq_some_iff.mpr opened
    rw [titlesFrom, titleOn?, entered]
    rfl
  induction reading with
  | done => rfl
  | @outside line lines out plain later ih =>
    have stays : fenceAfter none line = none := by
      rw [Option.eq_none_iff_forall_not_mem]
      exact fun fence entered => plain fence (fenceAfter_none_eq_some_iff.mp entered)
    rw [titlesFrom, titleOn?, stays, ih]
    cases title : headingTitle? line <;> simp [title]
  | @fenced line last fence body lines out opened inside closed later ih =>
    rw [enters opened, titlesFrom_inside opened inside, titlesFrom,
      (fenceAfter_some opened).1 closed, ih]
    rfl
  | @unclosed line fence body opened inside =>
    have all := titlesFrom_inside opened inside []
    rw [List.append_nil] at all
    rw [enters opened, all]
    rfl

/-! ### Where the readings part -/

theorem LongRun.functional {line : List Char} {fence fence' : Fence} (first : LongRun line fence)
    (second : LongRun line fence') : fence = fence' := by
  have found := fenceAfter_none_eq_some_iff.mpr first
  rw [fenceAfter_none_eq_some_iff.mpr second] at found
  exact (Option.some.inj found).symm

theorem Opens.longRun {line : List Char} {fence : Fence} (opened : Opens line fence) :
    LongRun line fence := by
  cases opened with
  | backticks run long => exact .run (Or.inl rfl) run long
  | tildes run long => exact .run (Or.inr rfl) run long

/-- A long run opens a fence, or it begins a code span. -/
theorem LongRun.opens_or_codeSpan {line : List Char} {fence : Fence} (long : LongRun line fence) :
    Opens line fence ∨ CodeSpan line := by
  obtain ⟨mark, run, long⟩ := long
  rcases mark with rfl | rfl
  · rename_i length rest
    by_cases more : '\x60' ∈ rest
    · exact Or.inr ⟨length, rest, run, long, more⟩
    · exact Or.inl (.backticks run long more)
  · exact Or.inl (.tildes run long)

/-- Without code spans outside of fences, every long run there opens a fence. -/
theorem Reading.longRun {lines out : List (List Char)} (reading : Reading Opens lines out)
    (noSpan : ∀ line ∈ out, ¬ CodeSpan line) : Reading LongRun lines out := by
  induction reading with
  | done => exact .done
  | outside plain later ih =>
    obtain ⟨here, later⟩ := List.forall_mem_cons.mp noSpan
    exact .outside (fun fence long => long.opens_or_codeSpan.elim (plain fence) here) (ih later)
  | fenced opened inside closed later ih => exact .fenced opened.longRun inside closed (ih noSpan)
  | unclosed opened inside => exact .unclosed opened.longRun inside

/-! ### Sections that occur more than once -/

/-- How often a section occurs among some lines. -/
def occurrences (title : String) (lines : List (List Char)) : Nat :=
  ((lines.filterMap headingTitle?).filter (sameTitle title.toList)).length

/-- What is reported of sections is what the reading by long runs shows. -/
theorem duplicateSection_mem_check_iff {text : String} {taken : List (List Char)}
    (reading : Reading LongRun (lines text.toList) taken) {sections : List String}
    {live : Option String} {title : String} {count : Nat} :
    .duplicateSection title count ∈ check text sections live ↔
      title ∈ sections ∧ 1 < count ∧ occurrences title taken = count := by
  have noStamp : .duplicateSection title count ∉ stampReasons (stamps text.toList) live := by
    intro mem
    exact Bool.noConfusion (noSections_iff.mp (noSections_stampReasons _ _) _ mem)
  have counted (title : String) :
      ((titles text.toList).filter (sameTitle title.toList)).length = occurrences title taken := by
    rw [titles, titlesFrom_eq_of_reading reading, occurrences]
  rw [check, List.mem_append, or_iff_left noStamp, duplicateSections, List.mem_filterMap]
  simp only [counted, Option.ite_none_right_eq_some, Option.some.injEq,
    DriftReason.duplicateSection.injEq]
  constructor
  · rintro ⟨_, listed, more, rfl, rfl⟩
    exact ⟨listed, more, rfl⟩
  · rintro ⟨listed, more, rfl⟩
    exact ⟨title, listed, more, rfl, rfl⟩

/-- **When duplicate sections are reported.**  A text has one reading in which a code span opens no
fence, and one in which every long run opens a fence.  All listed sections that occur more than once
outside of fences in the first sense are reported with their number, exactly if the second reading
leaves as many of their headings outside.  The readings are the same if there is no code span
outside of fences. -/
theorem duplicates_reported_iff (text : String) (sections : List String) (live : Option String) :
    ∃ outside taken : List (List Char),
      (∀ out, Reading Opens (lines text.toList) out ↔ out = outside) ∧
      (∀ out, Reading LongRun (lines text.toList) out ↔ out = taken) ∧
      ((∀ title ∈ sections, 1 < occurrences title outside →
          .duplicateSection title (occurrences title outside) ∈ check text sections live) ↔
        ∀ title ∈ sections, 1 < occurrences title outside →
          occurrences title taken = occurrences title outside) ∧
      ((∀ line ∈ outside, ¬ CodeSpan line) → taken = outside) := by
  obtain ⟨outside, proper⟩ := exists_reading Opens (lines text.toList)
  obtain ⟨taken, read⟩ := exists_reading LongRun (lines text.toList)
  have one (out : List (List Char)) (other : Reading Opens (lines text.toList) out) :
      out = outside :=
    other.unique (fun first second => first.longRun.functional second.longRun) proper
  have same (out : List (List Char)) (other : Reading LongRun (lines text.toList) out) :
      out = taken :=
    other.unique (fun first second => first.functional second) read
  refine ⟨outside, taken, fun out => ⟨one out, fun eq => eq ▸ proper⟩,
    fun out => ⟨same out, fun eq => eq ▸ read⟩, ?_, fun noSpan => ?_⟩
  · refine forall₃_congr fun title listed more => ?_
    rw [duplicateSection_mem_check_iff read]
    exact ⟨fun reported => reported.2.2, fun equal => ⟨listed, more, equal⟩⟩
  · exact (same outside (proper.longRun noSpan)).symm

/-- A code span on a line of its own, and a section that occurs twice behind it. -/
def spanText : String := "\x60\x60\x60a\x60\x60\x60\n# Why\n# Why\n"

/-- **A code span hides duplicate sections.**  No line of the text opens a fence, and the section
that occurs twice is not reported. -/
theorem codeSpan_hides_duplicates :
    ∃ outside, Reading Opens (lines spanText.toList) outside ∧ occurrences "Why" outside = 2 ∧
      check spanText ["Why"] none = [] := by
  have opensNothing {line : List Char} (noRun : fenceAfter none line = none) (fence : Fence) :
      ¬ Opens line fence := by
    intro opened
    rw [fenceAfter_none_eq_some_iff.mpr opened.longRun] at noRun
    cases noRun
  have span (fence : Fence) : ¬ Opens "\x60\x60\x60a\x60\x60\x60".toList fence := by
    rintro (⟨run, long, last⟩ | ⟨run, long⟩)
    · have found := fenceRun?_eq_some_iff.mpr ⟨Or.inl rfl, by omega, run⟩
      have known : fenceRun? "\x60\x60\x60a\x60\x60\x60".toList =
          some ('\x60', 3, "a\x60\x60\x60".toList) := by decide +kernel
      rw [known] at found
      cases found
      exact last (by decide +kernel)
    · have found := fenceRun?_eq_some_iff.mpr ⟨Or.inr rfl, by omega, run⟩
      have known : (fenceRun? "\x60\x60\x60a\x60\x60\x60".toList).map (·.1) = some '\x60' := by
        decide +kernel
      rw [found] at known
      cases known
  have heading : ∀ fence, ¬ Opens "# Why".toList fence := opensNothing (by decide +kernel)
  have cut : lines spanText.toList =
      ["\x60\x60\x60a\x60\x60\x60".toList, "# Why".toList, "# Why".toList] := by decide +kernel
  rw [cut]
  refine ⟨_, .outside span (.outside heading (.outside heading .done)), ?_, ?_⟩
  · decide +kernel
  · decide +kernel

end QualityGate.Artifact
