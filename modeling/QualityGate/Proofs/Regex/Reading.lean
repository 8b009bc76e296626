import QualityGate.Proofs.Regex.Language
import QualityGate.Regex.Parser

/-!
# How patterns without groups are read

A pattern is read item by item, so a piece of a pattern has a meaning of its own when it adds one
item wherever it stands.

* `ReadsAs` – a piece of a pattern adds one item, with this expression and nested this deeply.
* `parse?_anchored` – between `^` and `$`, such pieces are read as the sequence of their expressions
  unless one of them is nested too deeply.

### What is load-bearing

Reading takes fuel, and a repetition looks at the character behind it for a question mark.  Both are
parts of `ReadsAs`: a piece uses up no more fuel than it has characters, and none begins with a
question mark.
-/

namespace QualityGate.Regex

open QualityGate.Unicode (CharSet)

/-- Reading has got to this text, with no flags and no groups so far. -/
def Cursor.at (rest : List Char) : Cursor := ⟨rest, {}, 1, []⟩

variable {fuel : Nat} {inGroup : Bool} {items : List Item} {done : List (Nested Expr)}
  {read : Nested Expr} {rest : List Char}

/-! ### Nesting -/

theorem sharedNesting_le {nestings : List Nat} {limit : Nat} (below : ∀ n ∈ nestings, n < limit) :
    sharedNesting nestings ≤ limit := by
  have greatest {nestings : List Nat} (below : ∀ n ∈ nestings, n < limit) (some : 0 < limit) :
      nestings.foldr max 0 < limit := by
    induction nestings with
    | nil => exact some
    | cons n nestings ih =>
      obtain ⟨first, others⟩ := List.forall_mem_cons.mp below
      exact Nat.max_lt.mpr ⟨first, ih others⟩
  match nestings with
  | [] => exact Nat.zero_le _
  | [n] => exact Nat.le_of_lt (below n List.mem_cons_self)
  | n :: m :: nestings =>
    exact greatest below (Nat.zero_lt_of_lt (below n List.mem_cons_self))

/-! ### Single steps -/

namespace Reader

theorem bind_run {α β : Type} (first : Reader α) (second : α → Reader β) (s : Cursor) :
    (first >>= second) s = (first s).bind fun (a, s) => second a s :=
  rfl

theorem skip_at : skip (.at rest) = some ((), .at rest) := rfl

theorem rest_at : Reader.rest (.at rest) = some (rest, .at rest) := rfl

theorem flags_at : flags (.at rest) = some ({}, .at rest) := rfl

theorem take_at {c : Char} : take (.at (c :: rest)) = some (c, .at rest) := rfl

theorem takeText?_at {text : String} (other : Text.stripPrefix? text.toList rest = none) :
    takeText? text (.at rest) = some (false, .at rest) := by
  rw [takeText?, bind_run, rest_at]
  simp only [Option.bind_some, other]
  rfl

end Reader

theorem alternatives_caret : alternatives (fuel + 1) inGroup items done (.at ('^' :: rest)) =
    alternatives fuel inGroup (.part ⟨lookExpr {} .textStart, 0⟩ :: items) done (.at rest) :=
  rfl

theorem alternatives_dollar : alternatives (fuel + 1) inGroup items done (.at ('$' :: rest)) =
    alternatives fuel inGroup (.part ⟨lookExpr {} .textEnd, 0⟩ :: items) done (.at rest) :=
  rfl

theorem alternatives_dot : alternatives (fuel + 1) inGroup items done (.at ('.' :: rest)) =
    alternatives fuel inGroup (.part ⟨.set (CharSet.single '\n').complement, 0⟩ :: items) done
      (.at rest) :=
  rfl

theorem alternatives_escaped {c : Char} (special : isMeta c = true) :
    alternatives (fuel + 1) inGroup items done (.at ('\\' :: c :: rest)) =
      alternatives fuel inGroup (.part ⟨.set (.single c), 0⟩ :: items) done (.at rest) := by
  simp only [isMeta, List.mem_cons, List.not_mem_nil, or_false, decide_eq_true_eq] at special
  rcases special with rfl | rfl | rfl | rfl | rfl | rfl | rfl | rfl | rfl | rfl | rfl | rfl | rfl |
    rfl | rfl | rfl | rfl | rfl <;> rfl

/-- The characters that mean something in a pattern when they are not escaped. -/
def actives : List Char := ['\\', '.', '+', '*', '?', '(', ')', '|', '[', '{', '^', '$']

theorem alternatives_literal {c : Char} (plain : c ∉ actives) :
    alternatives (fuel + 1) inGroup items done (.at (c :: rest)) =
      alternatives fuel inGroup (.part ⟨.set (.single c), 0⟩ :: items) done (.at rest) := by
  simp only [actives, List.mem_cons, List.not_mem_nil, or_false, not_or] at plain
  have literal : primitive (.at (c :: rest)) = some (.set (.single c), .at rest) := by
    obtain ⟨noEscape, noDot, -, -, -, -, -, -, -, -, noCaret, noDollar⟩ := plain
    simp [primitive, Reader.bind_run, Reader.flags_at, Reader.take_at]
    rfl
  simp [alternatives, Reader.bind_run, Reader.skip_at, Reader.rest_at, literal, plain]

theorem alternatives_notSlash :
    alternatives (fuel + 4) inGroup items done (.at ('[' :: '^' :: '/' :: ']' :: rest)) =
      alternatives (fuel + 3) inGroup
        (.part ⟨.set (CharSet.single '/').complement, 1⟩ :: items) done (.at rest) := by
  rw [← CharSet.empty_union_single]
  rfl

/-- A group that is not remembered is read by itself. -/
theorem alternatives_group :
    alternatives (fuel + 1) inGroup items done (.at ('(' :: '?' :: ':' :: rest)) =
      (alternatives fuel true [] [] (.at rest)).bind fun (body, s) =>
        alternatives fuel inGroup (.part ⟨body.value, body.nesting + 1⟩ :: items) done
          { s with flags := {} } :=
  rfl

theorem alternatives_close : alternatives (fuel + 1) true items [] (.at (')' :: rest)) =
    some (sequence items, .at rest) :=
  rfl

theorem alternatives_end : alternatives (fuel + 1) false items [] (.at []) =
    some (sequence items, .at []) :=
  rfl

/-! ### Repetitions -/

theorem lazyMark_at (noMark : rest.head? ≠ some '?') :
    lazyMark (.at rest) = some (false, .at rest) := by
  cases rest with
  | nil => rfl
  | cons c rest =>
    have other : '?' ≠ c := fun same => noMark (congrArg some same.symm)
    exact Reader.takeText?_at (if_neg other)

/-- The repetitions that are written with one character. -/
inductive Mark : Char → Nat → Option Nat → Prop where
  | star : Mark '*' 0 none
  | plus : Mark '+' 1 none
  | mark : Mark '?' 0 (some 1)

/-- A mark repeats the item before it, as often as it can. -/
theorem alternatives_repeat {mark : Char} {min : Nat} {max : Option Nat} (isMark : Mark mark min max)
    (taking : read.value.isAlwaysEmpty = false) (noMark : rest.head? ≠ some '?') :
    alternatives (fuel + 1) inGroup (.part read :: items) done (.at (mark :: rest)) =
      alternatives fuel inGroup
        (.part ⟨.rep min max true read.value, read.nesting + 1⟩ :: items) done (.at rest) := by
  have steps : alternatives (fuel + 1) inGroup (.part read :: items) done (.at (mark :: rest)) =
      (lazyMark (.at rest)).bind fun (isLazy, s) =>
        (repeatLast (.part read :: items) (min, max) isLazy s).bind fun (items, s) =>
          alternatives fuel inGroup items done s := by
    cases isMark <;> rfl
  have simplest : Expr.repeated min max true read.value = .rep min max true read.value := by
    cases isMark <;> simp [Expr.repeated, taking]
  rw [steps, lazyMark_at noMark, ← simplest]
  rfl

/-! ### Pieces of patterns -/

/-- In front of the rest of a pattern, a piece of it adds one item and uses up no more fuel than it
has characters. -/
def Adds (piece : List Char) (read : Nested Expr) (rest : List Char) : Prop :=
  ∀ fuel inGroup items done, ∃ slack,
    alternatives (fuel + piece.length) inGroup items done (.at (piece ++ rest)) =
      alternatives (fuel + slack) inGroup (.part read :: items) done (.at rest)

theorem adds_dot : Adds ['.'] ⟨.set (CharSet.single '\n').complement, 0⟩ rest :=
  fun _ _ _ _ => ⟨0, alternatives_dot⟩

theorem adds_literal {c : Char} (plain : c ∉ actives) : Adds [c] ⟨.set (.single c), 0⟩ rest :=
  fun _ _ _ _ => ⟨0, alternatives_literal plain⟩

theorem adds_escaped {c : Char} (special : isMeta c = true) :
    Adds ['\\', c] ⟨.set (.single c), 0⟩ rest :=
  fun _ _ _ _ => ⟨1, alternatives_escaped special⟩

theorem adds_notSlash :
    Adds ['[', '^', '/', ']'] ⟨.set (CharSet.single '/').complement, 1⟩ rest :=
  fun _ _ _ _ => ⟨3, alternatives_notSlash⟩

/-- A piece with a mark behind it. -/
theorem Adds.repeated {piece : List Char} {mark : Char} {min : Nat} {max : Option Nat}
    (isMark : Mark mark min max) (adds : Adds piece read (mark :: rest))
    (taking : read.value.isAlwaysEmpty = false) (noMark : rest.head? ≠ some '?') :
    Adds (piece ++ [mark]) ⟨.rep min max true read.value, read.nesting + 1⟩ rest := by
  intro fuel inGroup items done
  obtain ⟨slack, step⟩ := adds (fuel + 1) inGroup items done
  refine ⟨slack, ?_⟩
  calc alternatives (fuel + (piece ++ [mark]).length) inGroup items done
        (.at (piece ++ [mark] ++ rest))
      = alternatives (fuel + 1 + piece.length) inGroup items done
          (.at (piece ++ mark :: rest)) := by
        rw [List.length_append, List.length_singleton, List.append_assoc, Nat.add_right_comm,
          Nat.add_assoc]
        rfl
    _ = alternatives (fuel + slack + 1) inGroup (.part read :: items) done (.at (mark :: rest)) := by
        rw [step, Nat.add_right_comm]
    _ = _ := alternatives_repeat isMark taking noMark

/-- A piece of a pattern does not begin with a question mark, and it adds one item where none
follows. -/
structure ReadsAs (piece : List Char) (read : Nested Expr) : Prop where
  noMark : piece.head? ≠ some '?'
  adds {rest : List Char} (noMark : rest.head? ≠ some '?') : Adds piece read rest

/-- The text of pieces, which come with what they are read as. -/
def joined (pieces : List (List Char × Nested Expr)) : List Char := pieces.flatMap Prod.fst

/-- What pieces are read as when they stand side by side. -/
def together (pieces : List (List Char × Nested Expr)) : Nested Expr :=
  sequence (pieces.map fun piece => Item.part piece.2).reverse

section Pieces

variable {pieces : List (List Char × Nested Expr)}

theorem value_together : (together pieces).value = Expr.seqs (pieces.map fun p => p.2.value) := by
  rw [together, sequence, List.reverse_reverse, List.map_map]
  rfl

theorem head?_joined_append (read : ∀ piece ∈ pieces, ReadsAs piece.1 piece.2)
    (noMark : rest.head? ≠ some '?') : (joined pieces ++ rest).head? ≠ some '?' := by
  induction pieces with
  | nil => exact noMark
  | cons piece pieces ih =>
    obtain ⟨first, later⟩ := List.forall_mem_cons.mp read
    rw [joined, List.flatMap_cons, List.append_assoc, List.head?_append]
    cases start : piece.1.head? with
    | none => exact ih later
    | some c =>
      have other := first.noMark
      rw [start] at other
      exact other

/-- Pieces that are put together add their items in order. -/
theorem alternatives_joined (read : ∀ piece ∈ pieces, ReadsAs piece.1 piece.2)
    (noMark : rest.head? ≠ some '?') (fuel : Nat) (inGroup : Bool) (items : List Item)
    (done : List (Nested Expr)) : ∃ slack,
      alternatives (fuel + (joined pieces).length) inGroup items done (.at (joined pieces ++ rest)) =
        alternatives (fuel + slack) inGroup
          ((pieces.map fun piece => Item.part piece.2).reverse ++ items) done (.at rest) := by
  induction pieces generalizing fuel items with
  | nil => exact ⟨0, rfl⟩
  | cons piece pieces ih =>
    obtain ⟨first, later⟩ := List.forall_mem_cons.mp read
    obtain ⟨saved, step⟩ := first.adds (head?_joined_append later noMark)
      (fuel + (joined pieces).length) inGroup items done
    -- Fuel that the first piece does not use up is left for the others.
    obtain ⟨slack, steps⟩ := ih later (fuel + saved) (.part piece.2 :: items)
    have text : joined (piece :: pieces) ++ rest = piece.1 ++ (joined pieces ++ rest) :=
      List.append_assoc _ _ _
    have length : fuel + (joined (piece :: pieces)).length =
        fuel + (joined pieces).length + piece.1.length := by
      rw [joined, List.flatMap_cons, List.length_append, Nat.add_assoc, Nat.add_comm piece.1.length]
      rfl
    refine ⟨saved + slack, ?_⟩
    rw [text, length, step, Nat.add_right_comm, steps, ← Nat.add_assoc]
    simp only [List.map_cons, List.reverse_cons, List.append_assoc, List.singleton_append]

/-- A group that is not remembered is read as the sequence of its pieces. -/
theorem adds_group (read : ∀ piece ∈ pieces, ReadsAs piece.1 piece.2) :
    Adds ('(' :: '?' :: ':' :: (joined pieces ++ [')']))
      ⟨(together pieces).value, (together pieces).nesting + 1⟩ rest := by
  intro fuel inGroup items done
  have noMark : (')' :: rest).head? ≠ some '?' := by simp
  obtain ⟨slack, steps⟩ := alternatives_joined read noMark (fuel + 3) true [] []
  have length : fuel + ('(' :: '?' :: ':' :: (joined pieces ++ [')'])).length =
      fuel + 3 + (joined pieces).length + 1 := by
    simp only [List.length_cons, List.length_append, List.length_nil]
    omega
  have text : '(' :: '?' :: ':' :: (joined pieces ++ [')']) ++ rest =
      '(' :: '?' :: ':' :: (joined pieces ++ ')' :: rest) := by
    simp
  have body : alternatives (fuel + 3 + (joined pieces).length) true [] []
      (.at (joined pieces ++ ')' :: rest)) = some (together pieces, .at rest) := by
    rw [steps, Nat.add_right_comm, alternatives_close, List.append_nil]
    rfl
  refine ⟨3 + (joined pieces).length, ?_⟩
  rw [length, text, alternatives_group, body, Nat.add_assoc fuel]
  rfl

/-- Between the conditions of a whole text, pieces are read as the sequence of their expressions. -/
theorem parse?_anchored (read : ∀ piece ∈ pieces, ReadsAs piece.1 piece.2)
    (shallow : ∀ piece ∈ pieces, piece.2.nesting < nestingLimit) :
    parse? {} ('^' :: joined pieces ++ ['$']) =
      some (Expr.seqs (lookExpr {} .textStart ::
        (pieces.map (fun piece => piece.2.value) ++ [lookExpr {} .textEnd])), []) := by
  have noMark : ['$'].head? ≠ some '?' := by decide
  obtain ⟨slack, steps⟩ := alternatives_joined read noMark ((joined pieces).length + 5) false
    [.part ⟨lookExpr {} .textStart, 0⟩] []
  have fuel : 2 * ('^' :: joined pieces ++ ['$']).length + 2 =
      (joined pieces).length + 5 + (joined pieces).length + 1 := by
    simp only [List.length_append, List.length_cons, List.length_nil]
    omega
  let items := .part ⟨lookExpr {} .textEnd, 0⟩ :: ((pieces.map fun piece => Item.part piece.2).reverse
    ++ [.part ⟨lookExpr {} .textStart, 0⟩])
  have whole : alternatives (2 * ('^' :: joined pieces ++ ['$']).length + 2) false [] []
      (.at ('^' :: joined pieces ++ ['$'])) = some (sequence items, .at []) := by
    have left : (joined pieces).length + 5 + slack = (joined pieces).length + slack + 3 + 1 + 1 := by
      omega
    rw [fuel, List.cons_append, alternatives_caret, steps, left, alternatives_dollar,
      alternatives_end]
  have value : (sequence items).value = Expr.seqs (lookExpr {} .textStart ::
      (pieces.map (fun piece => piece.2.value) ++ [lookExpr {} .textEnd])) := by
    simp [items, sequence, Item.toExpr, Function.comp_def]
  have nesting : (sequence items).nesting ≤ nestingLimit := by
    have none : (0 : Nat) < nestingLimit := by decide
    refine sharedNesting_le fun n mem => ?_
    simp only [items, List.map_cons, List.map_append, List.map_reverse, List.map_map, List.map_nil,
      List.mem_cons, List.mem_append, List.mem_reverse, List.mem_map, List.not_mem_nil,
      or_false] at mem
    rcases mem with rfl | ⟨piece, known, rfl⟩ | rfl
    · exact none
    · exact shallow piece known
    · exact none
  rw [parse?]
  simp only [StateT.run]
  rw [← Cursor.at, whole, value.symm]
  exact if_pos nesting

end Pieces

end QualityGate.Regex
