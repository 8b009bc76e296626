import Mathlib.Data.List.DropRight
import Mathlib.Data.List.TakeWhile
import QualityGate.Proofs.Text.Pieces

/-!
# Trimmed lines

Blanks at the end of a line are trimmed away, so trimming does not see whether a line has lost its
carriage return (`trim_dropReturn`).  Lines are read back from a text in which each is ended by a
newline, but for the carriage return that a line loses then (`lines_joinWith`).

What is dropped around the name of a path is told by what is left of it: of the `./` in front of it
(`dropCurrentDir_eq_iff`) and of the slashes behind it (`dropWhileEnd_slash_eq_iff`).
-/

namespace QualityGate.Text

/-- A character that is not wanted ends what is taken and stays behind what is dropped. -/
theorem takeWhile_append_singleton {p : Char → Bool} {c : Char} (other : p c = false)
    (text : List Char) :
    (text ++ [c]).takeWhile p = text.takeWhile p ∧
      (text ++ [c]).dropWhile p = text.dropWhile p ++ [c] := by
  induction text with
  | nil => simp [other]
  | cons d text ih =>
    cases wanted : p d with
    | true => simp [wanted, ih]
    | false => simp [wanted]

theorem isAllBlank_return : isAllBlank ['\r'] = true := rfl

theorem trimStart_cons {c : Char} (solid : isBlank c = false) (rest : List Char) :
    trimStart (c :: rest) = c :: rest := by
  simp [trimStart, solid]

theorem isAllBlank_iff {text : List Char} : isAllBlank text = true ↔ trimStart text = [] := by
  rw [isAllBlank, List.all_eq_true, trimStart, List.dropWhile_eq_nil_iff]

theorem trimEnd_append {tail : List Char} (blank : isAllBlank tail = true) (text : List Char) :
    trimEnd (text ++ tail) = trimEnd text := by
  have all : ∀ c ∈ tail.reverse, isBlank c = true := by simpa [isAllBlank] using blank
  rw [trimEnd, dropWhileEnd, List.reverse_append, List.dropWhile_append_of_pos all]
  rfl

/-- Blanks behind a text are only left at its start if there is nothing else. -/
theorem trimStart_append {tail : List Char} (blank : isAllBlank tail = true) (text : List Char) :
    trimStart (text ++ tail) = if isAllBlank text then [] else trimStart text ++ tail := by
  have nothing : tail.dropWhile isBlank = [] := isAllBlank_iff.mp blank
  rw [trimStart, List.dropWhile_append, nothing]
  by_cases all : isAllBlank text = true
  · have none : text.dropWhile isBlank = [] := isAllBlank_iff.mp all
    simp [all, none]
  · have some : text.dropWhile isBlank ≠ [] := fun none => all (isAllBlank_iff.mpr none)
    simp [all, some, trimStart]

theorem trimEnd_prefix (text : List Char) : trimEnd text <+: text := by
  have suffix : text.reverse.dropWhile isBlank <:+ text.reverse := List.dropWhile_suffix _
  simpa [trimEnd, dropWhileEnd] using List.reverse_prefix.mpr suffix

theorem trim_append {tail : List Char} (blank : isAllBlank tail = true) (text : List Char) :
    trim (text ++ tail) = trim text := by
  rw [trim, trim, trimStart_append blank]
  by_cases all : isAllBlank text = true
  · rw [if_pos all, isAllBlank_iff.mp all]
  · rw [if_neg all, trimEnd_append blank]

theorem trim_prepend {front : List Char} (blank : isAllBlank front = true) (text : List Char) :
    trim (front ++ text) = trim text := by
  rw [trim, trimStart, List.dropWhile_append_of_pos (List.all_eq_true.mp blank)]
  rfl

/-- A text with no blank at either end is not trimmed. -/
theorem trim_eq_self {first last : Char} {text : List Char} (begins : text.head? = some first)
    (ends : text.getLast? = some last) (solid : isBlank first = false ∧ isBlank last = false) :
    trim text = text := by
  obtain ⟨rest, rfl⟩ : ∃ rest, text = first :: rest := by
    cases text with
    | nil => cases begins
    | cons c rest => cases begins; exact ⟨rest, rfl⟩
  obtain ⟨front, whole⟩ := List.getLast?_eq_some_iff.mp ends
  rw [trim, trimStart_cons solid.1, whole]
  simp [trimEnd, dropWhileEnd, solid.2]

/-- A text without blanks is not trimmed. -/
theorem trim_of_solid {text : List Char} (solid : ∀ c ∈ text, isBlank c = false) :
    trim text = text := by
  cases text with
  | nil => rfl
  | cons c rest =>
    have last := List.getLast?_eq_some_getLast (List.cons_ne_nil c rest)
    exact trim_eq_self rfl last
      ⟨solid c List.mem_cons_self, solid _ (List.getLast_mem (List.cons_ne_nil c rest))⟩

/-- Only characters that are dropped can get lost. -/
theorem mem_dropWhile_iff {p : Char → Bool} {c : Char} (kept : p c = false) {text : List Char} :
    c ∈ text.dropWhile p ↔ c ∈ text := by
  refine ⟨fun mem => (List.dropWhile_suffix p).subset mem, fun mem => ?_⟩
  rw [← List.takeWhile_append_dropWhile (p := p) (l := text), List.mem_append] at mem
  refine mem.resolve_left fun taken => ?_
  rw [List.mem_takeWhile_imp taken] at kept
  cases kept

theorem mem_trim_iff {c : Char} (solid : isBlank c = false) {text : List Char} :
    c ∈ trim text ↔ c ∈ text := by
  rw [trim, trimEnd, dropWhileEnd, List.mem_reverse, mem_dropWhile_iff solid, List.mem_reverse,
    trimStart, mem_dropWhile_iff solid]

/-! ### Around a path -/

section Around

variable {text bare root : List Char}

/-- A text consists of some `./` and then this, with no other one in front of it. -/
structure Bares (text bare : List Char) : Prop where
  repeated : ∃ times, text = (List.replicate times ['.', '/']).flatten ++ bare
  ended : ¬ ['.', '/'] <+: bare

/-- A text consists of this and then some slashes, with no other one behind it. -/
structure Unslashes (text root : List Char) : Prop where
  repeated : ∃ times, text = root ++ List.replicate times '/'
  ended : root.getLast? ≠ some '/'

theorem dropCurrentDir_of_not_prefix (ended : ¬ ['.', '/'] <+: bare) :
    dropCurrentDir bare = bare := by
  unfold dropCurrentDir
  split
  · next rest => exact absurd ⟨rest, rfl⟩ ended
  · rfl

theorem dropCurrentDir_eq_iff : dropCurrentDir text = bare ↔ Bares text bare := by
  constructor
  · rintro rfl
    fun_induction dropCurrentDir text with
    | case1 rest ih =>
      obtain ⟨⟨times, whole⟩, ended⟩ := ih
      refine ⟨⟨times + 1, ?_⟩, ended⟩
      rw [List.replicate_succ, List.flatten_cons, List.append_assoc, ← whole]
      rfl
    | case2 text other =>
      exact ⟨⟨0, rfl⟩, fun ⟨rest, whole⟩ => other rest whole.symm⟩
  · rintro ⟨⟨times, rfl⟩, ended⟩
    induction times with
    | zero => exact dropCurrentDir_of_not_prefix ended
    | succ times ih =>
      rw [List.replicate_succ, List.flatten_cons, List.append_assoc]
      exact ih

theorem dropWhileEnd_slash_eq_iff :
    dropWhileEnd (· == '/') text = root ↔ Unslashes text root := by
  constructor
  · rintro rfl
    constructor
    · refine ⟨(text.rtakeWhile (· == '/')).length, ?_⟩
      have slashes : text.rtakeWhile (· == '/') =
          List.replicate (text.rtakeWhile (· == '/')).length '/' :=
        List.eq_replicate_of_mem fun c mem => by simpa using List.mem_rtakeWhile_imp mem
      rw [← slashes]
      exact List.rdropWhile_append_rtakeWhile.symm
    · intro last
      have some : text.rdropWhile (· == '/') ≠ [] := by
        intro nothing
        rw [dropWhileEnd, ← List.rdropWhile, nothing] at last
        cases last
      refine List.rdropWhile_last_not (· == '/') text some ?_
      have same : (text.rdropWhile (· == '/')).getLast? = Option.some '/' := last
      rw [List.getLast?_eq_some_getLast some] at same
      simpa using same
  · rintro ⟨⟨times, rfl⟩, ended⟩
    have kept : root.rdropWhile (· == '/') = root := by
      refine List.rdropWhile_eq_self_iff.mpr fun some slash => ended ?_
      rw [List.getLast?_eq_some_getLast some]
      simpa using slash
    rw [dropWhileEnd, List.reverse_append, List.reverse_replicate,
      List.dropWhile_append_of_pos (by simp)]
    exact kept

end Around

/-! ### Carriage returns -/

/-- A line is what it was without its carriage return, or it had one. -/
theorem dropReturn_cases (line : List Char) :
    dropReturn line = line ∨ line = dropReturn line ++ ['\r'] := by
  cases ends : line.getLast? with
  | none => exact Or.inl (by rw [dropReturn, ends])
  | some c =>
    obtain ⟨front, rfl⟩ := List.getLast?_eq_some_iff.mp ends
    by_cases carriage : c = '\r'
    · subst carriage
      exact Or.inr (by simp [dropReturn])
    · refine Or.inl ?_
      simp only [dropReturn, ends]
      split
      · next same => exact absurd (Option.some.inj same) carriage
      · rfl

theorem trim_dropReturn (line : List Char) : trim (dropReturn line) = trim line := by
  rcases dropReturn_cases line with same | whole
  · rw [same]
  · have trimmed := trim_append isAllBlank_return (dropReturn line)
    rw [← whole] at trimmed
    exact trimmed.symm

theorem mem_of_mem_dropReturn {c : Char} {line : List Char} (mem : c ∈ dropReturn line) :
    c ∈ line := by
  rcases dropReturn_cases line with same | whole
  · rwa [same] at mem
  · rw [whole]
    exact List.mem_append_left _ mem

/-- Lines are read back when each is ended by a newline. -/
theorem lines_joinWith {pieces : List (List Char)} (free : ∀ piece ∈ pieces, '\n' ∉ piece) :
    lines (joinWith ['\n'] (pieces ++ [[]])) = pieces.map dropReturn := by
  have cut : splitOn '\n' (joinWith ['\n'] (pieces ++ [[]])) = pieces ++ [[]] := by
    refine splitOn_joinWith (by simp) fun piece mem => ?_
    rcases List.mem_append.mp mem with known | last
    · exact free piece known
    · simp [List.mem_singleton.mp last]
  simp [lines, cut]

/-- A line has no newline in it. -/
theorem newline_notMem_of_mem_lines {text line : List Char} (mem : line ∈ lines text) :
    '\n' ∉ line := by
  have free {piece : List Char} (known : piece ∈ splitOn '\n' text) : '\n' ∉ piece :=
    notMem_of_mem_splitOn known
  have ended : line ∈ (splitOn '\n' text).dropLast.map dropReturn → '\n' ∉ line := by
    intro mem
    obtain ⟨piece, known, rfl⟩ := List.mem_map.mp mem
    exact fun newline => free (List.dropLast_subset _ known) (mem_of_mem_dropReturn newline)
  simp only [lines] at mem
  split at mem
  · exact ended mem
  · exact ended mem
  · next last whole =>
    rcases List.mem_append.mp mem with before | isLast
    · exact ended before
    · rw [List.mem_singleton.mp isLast]
      exact free (List.mem_of_getLast? whole)

end QualityGate.Text
