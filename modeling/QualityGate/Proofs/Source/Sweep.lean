import QualityGate.Source.Kind

/-!
# The pass in place

The pass that runs uses an array of kinds and places in the text.  This module shows that it never
uses a place outside of the text, and that it writes what the reading byte by byte says
(`sweep?_eq_some`).

### What is load-bearing

Both readings are compared at a place: the kinds before it are written, all others are still code.
They are in step except inside a block comment, which one reads byte by byte and the other skips.
So it is counted how long the reading byte by byte stays in a mode (`stay`), and skipping goes
exactly that far (`commentEnd_append`).
-/

namespace QualityGate.Source

open QualityGate.Text (Bytes)

/-! ### Staying in a mode -/

/-- The kind of the bytes that are read in a mode until code is reached again. -/
def Mode.kind : Mode → Kind
  | .normal => .code
  | .lineComment | .blockComment => .comment
  | .quoted _ => .literal

/-- How many bytes are read in a mode until code is reached again. -/
def stay : Mode → Bytes → Nat
  | _, [] => 0
  | .normal, _ => 0
  | .lineComment, a :: rest => if a = newline then 0 else stay .lineComment rest + 1
  | .blockComment, a :: b :: rest =>
    if a = star ∧ b = slash then 2 else stay .blockComment (b :: rest) + 1
  | .blockComment, [_] => 1
  | .quoted quote, a :: b :: rest =>
    if a = backslash then stay (.quoted quote) rest + 2
    else if a = quote then 1
    else stay (.quoted quote) (b :: rest) + 1
  | .quoted _, [_] => 1

@[simp] theorem stay_nil (mode : Mode) : stay mode [] = 0 := by
  cases mode <;> rfl

theorem stay_le (mode : Mode) (bytes : Bytes) : stay mode bytes ≤ bytes.length := by
  fun_induction stay mode bytes <;> simp_all

/-- A line break ends a line comment as a byte of code. -/
theorem kindsFrom_newline_cons (rest : Bytes) :
    kindsFrom .normal (newline :: rest) = .code :: kindsFrom .normal rest := by
  cases rest with
  | nil => rfl
  | cons b rest =>
    have noSlash : newline ≠ slash := by decide
    have noQuote : isQuote newline = false := by decide
    simp [kindsFrom, noSlash, noQuote]

/-- The bytes that are read in a mode have its kind, and what follows is read as code. -/
theorem kindsFrom_eq_replicate_append (mode : Mode) (bytes : Bytes) :
    kindsFrom mode bytes = List.replicate (stay mode bytes) mode.kind
      ++ kindsFrom .normal (bytes.drop (stay mode bytes)) := by
  fun_induction stay mode bytes with
  | case1 mode => simp
  | case2 bytes => rfl
  | case3 rest => rw [kindsFrom, if_pos rfl, List.drop_zero, kindsFrom_newline_cons]; rfl
  | case4 a rest other ih => rw [kindsFrom, if_neg other, ih]; rfl
  | case5 a b rest closes => rw [kindsFrom, if_pos closes]; rfl
  | case6 a b rest other ih => rw [kindsFrom, if_neg other, ih]; rfl
  | case7 a => rfl
  | case8 quote b rest ih => rw [kindsFrom, if_pos rfl, ih]; rfl
  | case9 a b rest plain => rw [kindsFrom, if_neg plain, if_pos rfl]; rfl
  | case10 quote a b rest plain other ih => rw [kindsFrom, if_neg plain, if_neg other, ih]; rfl
  | case11 quote a => rfl

/-! ### Skipping a comment -/

/-- Nothing but one byte is left: the comment goes to the end of the text. -/
theorem commentEnd_append_of_short {before rest : Bytes} (short : rest.length ≤ 1) :
    commentEnd (before ++ rest).toArray before.length = before.length + rest.length := by
  rw [commentEnd, closing?, dif_neg]
  · simp
  · simp
    omega

/-- The comment ends after the next two bytes, or one byte further on the same is asked again. -/
theorem commentEnd_append_cons_cons (before : Bytes) (a b : UInt8) (rest : Bytes) :
    commentEnd (before ++ a :: b :: rest).toArray before.length
      = if a = star ∧ b = slash then before.length + 2
        else commentEnd (before ++ [a] ++ b :: rest).toArray (before ++ [a]).length := by
  rw [commentEnd, closing?, dif_pos (by simp)]
  by_cases closes : a = star ∧ b = slash
  · simp [closes]
  · simp [closes, commentEnd]

/-- **Skipping a comment goes as far as reading it byte by byte.** -/
theorem commentEnd_append (before rest : Bytes) :
    commentEnd (before ++ rest).toArray before.length
      = before.length + stay .blockComment rest := by
  match rest with
  | [] => exact commentEnd_append_of_short (Nat.zero_le 1)
  | [a] => exact commentEnd_append_of_short (Nat.le_refl 1)
  | a :: b :: rest =>
    rw [commentEnd_append_cons_cons, stay, commentEnd_append (before ++ [a]) (b :: rest),
      List.length_append, List.length_singleton]
    split <;> omega

/-! ### The pass -/

/-- The kinds when the places before one are written. -/
def written (done : List Kind) (left : Nat) : Array Kind :=
  (done ++ List.replicate left Kind.code).toArray

/-- Marking the next places writes them. -/
theorem mark?_written (kind : Kind) (done : List Kind) (count left : Nat) :
    mark? kind done.length count (written done (count + left))
      = some (written (done ++ List.replicate count kind) left) := by
  induction count generalizing done with
  | zero => simp [mark?]
  | succ count ih =>
    have inside : done.length < (written done (count + 1 + left)).size := by
      rw [written, List.size_toArray, List.length_append, List.length_replicate]
      omega
    have next : (written done (count + 1 + left)).set done.length kind inside
        = written (done ++ [kind]) (count + left) := by
      simp [written, Nat.add_right_comm, List.replicate_succ]
    have later := ih (done ++ [kind])
    rw [List.length_append, List.length_singleton] at later
    rw [mark?, dif_pos inside, next, later, List.append_assoc]
    rfl

/-- From any place where only code is left to be written, the pass in place writes what the reading
byte by byte says of the rest. -/
def InStep (mode : Mode) (rest : Bytes) : Prop :=
  ∀ (before : Bytes) (done : List Kind), done.length = before.length →
    sweep? (before ++ rest).toArray mode before.length (written done rest.length)
      = some (done ++ kindsFrom mode rest).toArray

/-- Past the end nothing is left to do. -/
theorem sweep?_of_size_le {bytes : Array UInt8} {mode : Mode} {place : Nat} {kinds : Array Kind}
    (past : bytes.size ≤ place) : sweep? bytes mode place kinds = some kinds := by
  rw [sweep?, dif_neg (Nat.not_lt.mpr past)]

/-- Bytes of one kind are marked, and the rest is in step. -/
theorem InStep.mark {mode : Mode} {later before : Bytes} {done : List Kind} (part : Bytes)
    (inStep : InStep mode later) (kind : Kind) (same : done.length = before.length) :
    (mark? kind before.length part.length (written done (part ++ later).length)).bind
        (sweep? (before ++ (part ++ later)).toArray mode (before.length + part.length))
      = some (done ++ (List.replicate part.length kind ++ kindsFrom mode later)).toArray := by
  have rest := inStep (before ++ part) (done ++ List.replicate part.length kind) (by simp [same])
  rw [List.length_append, List.append_assoc] at rest
  rw [← same, List.length_append, mark?_written, Option.bind_some, same, rest, List.append_assoc]

/-- A byte of code is left alone, and the rest is in step. -/
theorem InStep.skip {mode : Mode} {a : UInt8} {later before : Bytes} {done : List Kind}
    (inStep : InStep mode later) (same : done.length = before.length) :
    sweep? (before ++ a :: later).toArray mode (before.length + 1)
        (written done (a :: later).length)
      = some (done ++ .code :: kindsFrom mode later).toArray := by
  have rest := inStep (before ++ [a]) (done ++ [.code]) (by simp [same])
  simpa [written, List.replicate_succ] using rest

/-- **The two readings are in step** from every place and in every mode. -/
theorem inStep (mode : Mode) (rest : Bytes) : InStep mode rest := by
  intro before done same
  match rest with
  | [] =>
    rw [sweep?_of_size_le (by simp), kindsFrom_nil]
    simp [written]
  | a :: later =>
    have inside : before.length < (before ++ a :: later).toArray.size := by simp
    have here : (before ++ a :: later).toArray[before.length] = a := by simp
    have next : (before ++ a :: later).toArray[before.length + 1]? = later[0]? := by
      simp [List.getElem?_append_right]
    rw [sweep?, dif_pos inside]
    cases mode with
    | normal =>
      simp only [here, next]
      cases later with
      | nil =>
        simp only [List.getElem?_nil, reduceCtorEq, and_false, if_false, kindsFrom]
        split
        · exact (inStep (.quoted a) []).mark [a] .literal same
        · exact (inStep .normal []).skip same
      | cons b later =>
        simp only [List.getElem?_cons_zero, Option.some.injEq, kindsFrom]
        split
        · exact (inStep .lineComment later).mark [a, b] .comment same
        split
        · exact (inStep .blockComment later).mark [a, b] .comment same
        split
        · exact (inStep (.quoted a) (b :: later)).mark [a] .literal same
        · exact (inStep .normal (b :: later)).skip same
    | lineComment =>
      simp only [here, kindsFrom]
      split
      · exact (inStep .normal later).skip same
      · exact (inStep .lineComment later).mark [a] .comment same
    | blockComment =>
      have bound := stay_le .blockComment (a :: later)
      have forward : 0 < stay .blockComment (a :: later) := by
        have ahead := lt_commentEnd inside
        rw [commentEnd_append] at ahead
        omega
      have marked := (inStep .normal ((a :: later).drop (stay .blockComment (a :: later)))).mark
        ((a :: later).take (stay .blockComment (a :: later))) .comment same
      rw [List.take_append_drop, List.length_take_of_le bound] at marked
      simp only [commentEnd_append, Nat.add_sub_cancel_left]
      rw [kindsFrom_eq_replicate_append]
      exact marked
    | quoted quote =>
      simp only [here]
      cases later with
      | nil =>
        simp only [kindsFrom]
        split
        · -- A backslash at the very end: the pass steps over the end of the text.
          have marked := mark?_written .literal done 1 0
          rw [same] at marked
          have past : (before ++ [a]).toArray.size ≤ before.length + 2 := by simp
          rw [if_neg (by simp), List.length_singleton, marked, Option.bind_some,
            sweep?_of_size_le past]
          simp [written]
        · have marked := (inStep (if a = quote then .normal else .quoted quote) []).mark
            [a] .literal same
          rw [kindsFrom_nil] at marked
          exact marked
      | cons b later =>
        have two : before.length + 1 < (before ++ a :: b :: later).toArray.size := by simp
        simp only [kindsFrom, if_pos two]
        split
        · exact (inStep (.quoted quote) later).mark [a, b] .literal same
        · exact (inStep _ (b :: later)).mark [a] .literal same
termination_by rest.length

/-- The pass in place always has a result: no place outside of the text is used. -/
theorem sweep?_eq_some (bytes : Bytes) :
    sweep? bytes.toArray .normal 0 (Array.replicate bytes.length .code)
      = some (kindsFrom .normal bytes).toArray := by
  have result := inStep .normal bytes [] [] rfl
  simpa [written] using result

/-- What runs says what the reading byte by byte says. -/
theorem kinds_eq_kindsFrom (bytes : Bytes) : kinds bytes = kindsFrom .normal bytes := by
  rw [kinds, sweep?_eq_some, Option.getD_some]

/-- Every byte has one kind. -/
@[simp] theorem length_kinds (bytes : Bytes) : (kinds bytes).length = bytes.length := by
  rw [kinds_eq_kindsFrom, length_kindsFrom]

end QualityGate.Source
