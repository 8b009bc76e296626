import QualityGate.Proofs.Glob.Expression
import QualityGate.Proofs.Regex.Choice
import QualityGate.Rule.Matcher

/-!
# Terms as a regular expression

A list of terms is searched for directly.  The same search can be written as a regular expression:
the escaped terms as alternatives, between word boundaries if whole words are looked for.

* `attempts_termsExpr` – the attempts of that expression are the listed terms that occur at a place.
* `parse?_termsPattern` – the pattern is read as that expression, whatever characters terms contain.
* `search_of_compile_termsPattern` – the compiled pattern finds what the terms find.
-/

namespace QualityGate.Matcher

open QualityGate.Regex
open QualityGate.Text (stripPrefix?)

/-! ### The expression -/

/-- The expression of a list of terms. -/
def termsExpr (wholeWord : Bool) (terms : List (List Char)) : Expr :=
  let alternatives := Expr.alts (terms.map fun term => Expr.seqs (term.map Expr.char))
  if wholeWord then
    Expr.seqs [lookExpr {} .wordBoundary, alternatives, lookExpr {} .wordBoundary]
  else alternatives

/-- Where a term ends that occurs at a place. -/
def termStop? (wholeWord : Bool) (place : Place) (term : List Char) : Option Place :=
  if (stripPrefix? term place.rest).isSome &&
      (! wholeWord || (isBoundary place && isBoundary (place.advance term.length))) then
    some (place.advance term.length)
  else none

theorem termEnd?_eq (wholeWord : Bool) (terms : List (List Char)) (place : Place) :
    termEnd? wholeWord terms place =
      terms.findSome? fun term => (termStop? wholeWord place term).map Place.position := by
  rw [termEnd?]
  congr 1
  funext term
  rw [termStop?]
  cases stripPrefix? term place.rest with
  | none => rfl
  | some rest =>
    simp only [Option.isSome_some, Bool.true_and]
    split <;> rfl

/-- A text is taken where it stands. -/
theorem attempts_text (term : List Char) (attempt : Attempt) :
    (Expr.seqs (term.map Expr.char)).attempts attempt =
      if (stripPrefix? term attempt.place.rest).isSome then
        [⟨attempt.place.advance term.length, attempt.slots⟩]
      else [] := by
  induction term generalizing attempt with
  | nil => rfl
  | cons c term ih =>
    obtain ⟨⟨before, position, rest⟩, slots⟩ := attempt
    rw [List.map_cons, Expr.attempts_seqs_cons, Expr.char, Expr.attempts]
    cases rest with
    | nil => rfl
    | cons d rest =>
      dsimp only
      by_cases same : c = d
      · rw [if_pos (Unicode.CharSet.contains_single.mpr same.symm), List.flatMap_singleton, ih,
          stripPrefix?, if_pos same]
        rfl
      · rw [if_neg fun found => same (Unicode.CharSet.contains_single.mp found).symm,
          stripPrefix?, if_neg same]
        rfl

/-- A condition keeps the attempts for which it holds. -/
theorem attempts_boundary (attempt : Attempt) :
    (lookExpr {} .wordBoundary).attempts attempt =
      if isBoundary attempt.place then [attempt] else [] :=
  rfl

/-- **The attempts of the expression** are the listed terms that occur at the place, in order. -/
theorem attempts_termsExpr (wholeWord : Bool) (terms : List (List Char)) (attempt : Attempt) :
    (termsExpr wholeWord terms).attempts attempt = terms.flatMap fun term =>
      (termStop? wholeWord attempt.place term).toList.map fun stop => ⟨stop, attempt.slots⟩ := by
  have alternatives : (Expr.alts (terms.map fun term => Expr.seqs (term.map Expr.char))).attempts
      attempt = terms.flatMap fun term => if (stripPrefix? term attempt.place.rest).isSome then
        [⟨attempt.place.advance term.length, attempt.slots⟩] else [] := by
    rw [Expr.attempts_alts, List.flatMap_map]
    exact List.flatMap_congr fun term _ => attempts_text term attempt
  cases wholeWord with
  | false =>
    refine alternatives.trans (List.flatMap_congr fun term _ => ?_)
    rw [termStop?, Bool.not_false, Bool.true_or, Bool.and_true]
    split <;> rfl
  | true =>
    rw [termsExpr, if_pos rfl, Expr.attempts_seqs_cons, attempts_boundary]
    by_cases start : isBoundary attempt.place = true
    · rw [if_pos start, List.flatMap_singleton, Expr.attempts_seqs_cons, alternatives,
        List.flatMap_assoc]
      refine List.flatMap_congr fun term _ => ?_
      rw [termStop?, Bool.not_true, Bool.false_or, start, Bool.true_and]
      cases stripPrefix? term attempt.place.rest with
      | none => rfl
      | some rest =>
        rw [Option.isSome_some, Bool.true_and, if_pos rfl, List.flatMap_singleton, Expr.seqs,
          attempts_boundary]
        split <;> rfl
    · rw [if_neg start, List.flatMap_nil]
      refine (List.flatMap_eq_nil_iff.mpr fun term _ => ?_).symm
      rw [termStop?, Bool.eq_false_iff.mpr start]
      simp

/-! ### Its program -/

theorem isLoopless_termsExpr (wholeWord : Bool) (terms : List (List Char)) :
    (termsExpr wholeWord terms).IsLoopless := by
  have alternatives :
      (Expr.alts (terms.map fun term => Expr.seqs (term.map Expr.char))).IsLoopless := by
    refine Expr.isLoopless_alts fun e mem => ?_
    obtain ⟨term, -, rfl⟩ := List.mem_map.mp mem
    refine Expr.isLoopless_seqs fun e mem => ?_
    obtain ⟨c, -, rfl⟩ := List.mem_map.mp mem
    trivial
  cases wholeWord with
  | false => exact alternatives
  | true => exact ⟨trivial, alternatives, trivial⟩

theorem groupCount_termsExpr (wholeWord : Bool) (terms : List (List Char)) :
    (termsExpr wholeWord terms).groupCount = 1 := by
  have text (term : List Char) : (Expr.seqs (term.map Expr.char)).groupCount = 1 := by
    induction term with
    | nil => rfl
    | cons c term ih =>
      cases term with
      | nil => rfl
      | cons _ _ => exact congrArg (max 1) ih
  have alternatives :
      (Expr.alts (terms.map fun term => Expr.seqs (term.map Expr.char))).groupCount = 1 := by
    induction terms with
    | nil => rfl
    | cons term terms ih =>
      cases terms with
      | nil => exact text term
      | cons _ _ => exact congrArg₂ max (text term) ih
  cases wholeWord with
  | false => exact alternatives
  | true => exact congrArg (fun count => max 1 (max count 1)) alternatives

/-- The match that is preferred at a place is that of the first listed term. -/
theorem preferred?_termsExpr (wholeWord : Bool) (terms : List (List Char)) (place : Place) :
    preferred? (termsExpr wholeWord terms).program.code (termsExpr wholeWord terms).program.start
        place (termsExpr wholeWord terms).program.blank =
      (termEnd? wholeWord terms place).map fun stop => #[some place.position, some stop] := by
  have blank : (termsExpr wholeWord terms).program.blank = #[none, none] := by
    show Array.replicate (2 * (termsExpr wholeWord terms).groupCount) none = _
    rw [groupCount_termsExpr]
    rfl
  rw [Expr.preferred?_program (isLoopless_termsExpr wholeWord terms), blank, Expr.attempts,
    attempts_termsExpr, termEnd?_eq, List.head?_map, List.head?_flatMap]
  -- The positions are remembered for each term in turn.
  rw [List.map_findSome?, List.map_findSome?, List.map_findSome?]
  congr 1
  funext term
  simp only [Function.comp_apply]
  cases found : termStop? wholeWord place term with
  | none => simp [Attempt.remember, found]
  | some stop => simp [Attempt.remember, found]

/-- **A search for the expression** finds what a search for the terms finds. -/
theorem leftmost?_termsExpr (wholeWord : Bool) (terms : List (List Char)) (text rest : List Char)
    (before : Option Char) (position : Nat) :
    ((termsExpr wholeWord terms).program.leftmost? before position rest).map
        (fun slots => (⟨text, Regex.spansOf slots.toList⟩ : Regex.Match)) =
      searchTerms wholeWord terms text (rest.length + 1) ⟨before, position, rest⟩ := by
  induction rest generalizing before position with
  | nil =>
    rw [Program.leftmost?, preferred?_termsExpr, List.length_nil, searchTerms]
    cases termEnd? wholeWord terms ⟨before, position, []⟩ <;> rfl
  | cons c rest ih =>
    rw [Program.leftmost?, preferred?_termsExpr, List.length_cons, searchTerms]
    cases termEnd? wholeWord terms ⟨before, position, c :: rest⟩ with
    | none => exact ih _ _
    | some stop => rfl

/-! ### Its pattern -/

section Reading

variable {fuel : Nat} {inGroup : Bool} {items : List Item} {done : List (Nested Expr)}
  {rest : List Char}

theorem alternatives_bar : alternatives (fuel + 1) inGroup items done (.at ('|' :: rest)) =
    alternatives fuel inGroup [] (Regex.sequence items :: done) (.at rest) :=
  rfl

/-- The end of a group with several alternatives. -/
theorem alternatives_closing : alternatives (fuel + 1) true items done (.at (')' :: rest)) =
    some (choice (Regex.sequence items :: done), .at rest) :=
  rfl

theorem alternatives_wordBoundary (noBrace : rest.head? ≠ some '\x7b') :
    alternatives (fuel + 1) inGroup items done (.at ('\\' :: 'b' :: rest)) =
      alternatives fuel inGroup (.part ⟨lookExpr {} .wordBoundary, 0⟩ :: items) done
        (.at rest) := by
  have escaped : escapeSequence (.at ('b' :: rest)) = some (.look .wordBoundary, .at rest) := by
    have reads : escapeSequence (.at ('b' :: rest)) =
        (if rest.head? = some '\x7b' then
          return .look ((← boundaryKind).getD .wordBoundary)
        else pure (.look .wordBoundary) : Reader Escape) (.at rest) := rfl
    rw [reads, if_neg noBrace]
    rfl
  have read : primitive (.at ('\\' :: 'b' :: rest)) =
      some (lookExpr {} .wordBoundary, .at rest) := by
    simp only [primitive, Reader.bind_run, Reader.flags_at, Reader.take_at, Option.bind_some,
      escaped]
    rfl
  simp [alternatives, Reader.bind_run, Reader.skip_at, Reader.rest_at, read]

/-- The escaped terms with bars between them. -/
def listed (terms : List (List Char)) : List Char := ['|'].intercalate (terms.map Regex.escape)

/-- What an escaped term is read as: the sequence of its characters. -/
def readTerm (term : List Char) : Nested Expr := together (Glob.namePieces term)

theorem value_readTerm (term : List Char) :
    (readTerm term).value = Expr.seqs (term.map Expr.char) := by
  rw [readTerm, value_together, Glob.namePieces, List.map_map]
  rfl

theorem nesting_readTerm (term : List Char) : (readTerm term).nesting ≤ 1 := by
  refine sharedNesting_le fun n mem => ?_
  simp only [Glob.namePieces, List.map_reverse, List.map_map, List.mem_reverse, List.mem_map] at mem
  obtain ⟨c, -, rfl⟩ := mem
  exact Nat.one_pos

/-- An escaped term is read as the sequence of its characters. -/
theorem alternatives_term (term : List Char) (noMark : rest.head? ≠ some '?') (fuel : Nat)
    (done : List (Nested Expr)) : ∃ slack items, Regex.sequence items = readTerm term ∧
      alternatives (fuel + (Regex.escape term).length) true [] done
          (.at (Regex.escape term ++ rest)) =
        alternatives (fuel + slack) true items done (.at rest) := by
  have pieces : ∀ piece ∈ Glob.namePieces term, ReadsAs piece.1 piece.2 :=
    Glob.readsAs_namePieces
  obtain ⟨slack, read⟩ := alternatives_joined pieces noMark fuel true [] done
  rw [Glob.joined_namePieces] at read
  refine ⟨slack, _, ?_, read⟩
  rw [List.append_nil]
  rfl

/-- Escaped terms up to the end of their group are read as alternatives. -/
theorem alternatives_listed (term : List Char) (terms : List (List Char)) (fuel : Nat)
    (done : List (Nested Expr)) :
    alternatives (fuel + 1 + (listed (term :: terms)).length) true [] done
        (.at (listed (term :: terms) ++ ')' :: rest)) =
      some (choice (((term :: terms).map readTerm).reverse ++ done), .at rest) := by
  induction terms generalizing term fuel done with
  | nil =>
    have noMark : (')' :: rest).head? ≠ some '?' := by simp
    obtain ⟨slack, items, same, read⟩ := alternatives_term term noMark (fuel + 1) done
    have text : listed [term] = Regex.escape term := List.intercalate_singleton
    rw [text, read, Nat.add_right_comm, alternatives_closing, same]
    rfl
  | cons next terms ih =>
    have text : listed (term :: next :: terms) =
        Regex.escape term ++ '|' :: listed (next :: terms) := by
      rw [listed, List.map_cons, List.map_cons, List.intercalate_cons_cons, List.append_assoc]
      rfl
    have noMark : ('|' :: (listed (next :: terms) ++ ')' :: rest)).head? ≠ some '?' := by simp
    obtain ⟨slack, items, same, read⟩ := alternatives_term term noMark
      (fuel + 1 + (listed (next :: terms)).length + 1) done
    have length : fuel + 1 + (listed (term :: next :: terms)).length =
        fuel + 1 + (listed (next :: terms)).length + 1 + (Regex.escape term).length := by
      rw [text, List.length_append, List.length_cons]
      omega
    have left : fuel + 1 + (listed (next :: terms)).length + 1 + slack =
        fuel + slack + 1 + (listed (next :: terms)).length + 1 := by
      omega
    rw [length, text, List.append_assoc, List.cons_append, read, left, alternatives_bar, ih, same]
    simp

/-- What escaped terms with bars between them are read as: their alternatives. -/
def readTerms (terms : List (List Char)) : Nested Expr := choice (terms.map readTerm).reverse

theorem value_readTerms (terms : List (List Char)) :
    (readTerms terms).value = termsExpr false terms := by
  rw [readTerms, choice, List.reverse_reverse, List.map_map, termsExpr, if_neg Bool.false_ne_true]
  exact congrArg Expr.alts (List.map_congr_left fun term _ => value_readTerm term)

theorem nesting_readTerms (terms : List (List Char)) : (readTerms terms).nesting ≤ 2 := by
  refine sharedNesting_le fun n mem => ?_
  simp only [List.map_reverse, List.map_map, List.mem_reverse, List.mem_map] at mem
  obtain ⟨term, -, rfl⟩ := mem
  exact Nat.lt_succ_of_le (nesting_readTerm term)

/-- A group of escaped terms is read as their alternatives. -/
theorem alternatives_terms {terms : List (List Char)} (any : terms ≠ []) (fuel : Nat) :
    alternatives (fuel + 2 + (listed terms).length) inGroup items done
        (.at ('(' :: '?' :: ':' :: (listed terms ++ ')' :: rest))) =
      alternatives (fuel + 1 + (listed terms).length) inGroup
        (.part ⟨termsExpr false terms, (readTerms terms).nesting + 1⟩ :: items) done
        (.at rest) := by
  cases terms with
  | nil => exact absurd rfl any
  | cons term terms =>
    have step : fuel + 2 + (listed (term :: terms)).length =
        fuel + 1 + (listed (term :: terms)).length + 1 := by
      omega
    rw [step, alternatives_group, alternatives_listed, ← value_readTerms, List.append_nil]
    rfl

end Reading

/-- The pattern of terms. -/
theorem toList_termsPattern (wholeWord : Bool) (terms : List (List Char)) :
    (termsPattern wholeWord terms).toList =
      if wholeWord then
        '\\' :: 'b' :: '(' :: '?' :: ':' :: (listed terms ++ ')' :: ['\\', 'b'])
      else '(' :: '?' :: ':' :: (listed terms ++ [')']) := by
  have text : ("|".intercalate (terms.map fun term => String.ofList (Regex.escape term))).toList =
      listed terms := by
    rw [String.toList_intercalate, List.map_map]
    simp [listed, Function.comp_def]
  cases wholeWord <;> simp [termsPattern, text]

/-- **The pattern of terms is read as their expression**, whatever characters they contain. -/
theorem parse?_termsPattern (wholeWord : Bool) {terms : List (List Char)} (any : terms ≠ []) :
    parse? {} (termsPattern wholeWord terms).toList = some (termsExpr wholeWord terms, []) := by
  suffices read : ∃ nesting, nesting ≤ nestingLimit ∧
      alternatives (2 * (termsPattern wholeWord terms).toList.length + 2) false [] []
        (.at (termsPattern wholeWord terms).toList) =
          some (⟨termsExpr wholeWord terms, nesting⟩, .at []) by
    obtain ⟨nesting, shallow, read⟩ := read
    rw [parse?]
    simp only [StateT.run]
    rw [← Cursor.at, read]
    exact if_pos shallow
  have shallow : (readTerms terms).nesting + 1 < nestingLimit :=
    Nat.lt_of_le_of_lt (Nat.succ_le_succ (nesting_readTerms terms)) (by decide)
  rw [toList_termsPattern]
  cases wholeWord with
  | false =>
    have fuel : 2 * ('(' :: '?' :: ':' :: (listed terms ++ [')'])).length + 2 =
        (listed terms).length + 8 + 2 + (listed terms).length := by
      simp only [List.length_cons, List.length_append, List.length_nil]
      omega
    refine ⟨_, Nat.le_of_lt shallow, ?_⟩
    rw [if_neg Bool.false_ne_true, fuel, alternatives_terms any, Nat.add_right_comm,
      alternatives_end]
    rfl
  | true =>
    have fuel : 2 * ('\\' :: 'b' :: '(' :: '?' :: ':' ::
        (listed terms ++ ')' :: ['\\', 'b'])).length + 2 =
          (listed terms).length + 15 + 2 + (listed terms).length + 1 := by
      simp only [List.length_cons, List.length_append, List.length_nil]
      omega
    have left : (listed terms).length + 15 + 1 + (listed terms).length =
        2 * (listed terms).length + 14 + 1 + 1 := by
      omega
    have boundary : 0 < nestingLimit := by decide
    refine ⟨sharedNesting [0, (readTerms terms).nesting + 1, 0], ?_, ?_⟩
    · exact sharedNesting_le (by simp [boundary, shallow])
    · rw [if_pos rfl, fuel, alternatives_wordBoundary (by simp), alternatives_terms any, left,
        alternatives_wordBoundary (by simp), alternatives_end]
      rfl

/-- The pattern of terms can always be read, so it compiles unless it is too large. -/
theorem compile_termsPattern_eq (wholeWord : Bool) {terms : List (List Char)} (any : terms ≠ []) :
    Regex.compile false (termsPattern wholeWord terms) =
      if Expr.sizeLimit < (termsExpr wholeWord terms).cost then .error .tooLarge
      else .ok ⟨termsPattern wholeWord terms, (termsExpr wholeWord terms).program, []⟩ := by
  rw [Regex.compile, parse?_termsPattern wholeWord any]

/-- **Terms as a regular expression.**  Their pattern, once it is compiled, finds at every place what
a search for the terms finds. -/
theorem search_of_compile_termsPattern {wholeWord : Bool} {terms : List (List Char)}
    (any : terms ≠ []) {regex : Regex}
    (compiled : Regex.compile false (termsPattern wholeWord terms) = .ok regex) :
    (Matcher.regex regex).search = (Matcher.terms wholeWord terms).search := by
  rw [compile_termsPattern_eq wholeWord any] at compiled
  split at compiled
  · cases compiled
  · obtain rfl := Except.ok.inj compiled
    funext text place
    show Regex.matchFrom? _ text place = _
    rw [Regex.matchFrom?, Expr.search_program (isLoopless_termsExpr wholeWord terms),
      leftmost?_termsExpr, search]

end QualityGate.Matcher
