import Mathlib.Data.List.Forall2
import QualityGate.Glob
import QualityGate.Proofs.Text.Trim

/-!
# What globs with tokens mean

A glob with `*` or `?` and without a bracket is a list of tokens, each of which stands for some
texts, and it admits the paths that can be cut into such texts.

* `Reads` is the grammar of tokens.  At every place the longest token is read, so a glob is read in
  exactly one way (`reads_iff`).
* `Token.StandsFor` says which texts a token stands for, where no text has a line break.
* `admits_tokens_iff` – tokens admit a path without line breaks exactly when the path can be cut into
  pieces, one for each token and in order.

### What is load-bearing

Matching does not cut the path.  It keeps what may be left of it after some tokens, so the work is
to say that these are exactly the rests of all ways to cut (`mem_restsAfter_iff`).
-/

namespace QualityGate.Glob

open QualityGate.Text

/-! ### The grammar -/

/-- How a glob is read as tokens.  The longest token counts: `**` is read before `*`, and `**/`
before `**`. -/
inductive Reads : List Char → List Token → Prop where
  | nil : Reads [] []
  | directories {rest : List Char} {later : List Token} (reads : Reads rest later) :
    Reads ('*' :: '*' :: '/' :: rest) (.directories :: later)
  | anything {rest : List Char} {later : List Token} (longest : rest.head? ≠ some '/')
    (reads : Reads rest later) : Reads ('*' :: '*' :: rest) (.anything :: later)
  | withinName {rest : List Char} {later : List Token} (longest : rest.head? ≠ some '*')
    (reads : Reads rest later) : Reads ('*' :: rest) (.withinName :: later)
  | one {rest : List Char} {later : List Token} (reads : Reads rest later) :
    Reads ('?' :: rest) (.one :: later)
  | char {c : Char} {rest : List Char} {later : List Token} (noStar : c ≠ '*') (noMark : c ≠ '?')
    (reads : Reads rest later) : Reads (c :: rest) (.char c :: later)

theorem head?_ne_some_iff {c : Char} {text : List Char} :
    text.head? ≠ some c ↔ ∀ rest, text ≠ c :: rest := by
  cases text <;> simp

theorem reads_tokens (text : List Char) : Reads text (tokens text) := by
  fun_induction tokens text with
  | case1 => exact .nil
  | case2 rest ih => exact .directories ih
  | case3 rest other ih => exact .anything (head?_ne_some_iff.mpr other) ih
  | case4 rest _ other ih => exact .withinName (head?_ne_some_iff.mpr other) ih
  | case5 rest ih => exact .one ih
  | case6 c rest _ _ noStar noMark ih => exact .char noStar noMark ih

theorem Reads.tokens_eq {text : List Char} {list : List Token} (reads : Reads text list) :
    tokens text = list := by
  induction reads with
  | nil => rfl
  | directories reads ih => rw [tokens, ih]
  | anything longest reads ih => rw [tokens.eq_3 _ (head?_ne_some_iff.mp longest), ih]
  | withinName longest reads ih =>
    have other := head?_ne_some_iff.mp longest
    rw [tokens.eq_4 _ (fun rest => other ('/' :: rest)) other, ih]
  | one reads ih => rw [tokens, ih]
  | char noStar noMark reads ih =>
    rw [tokens.eq_6 _ _ (fun _ star => absurd star noStar) (fun _ star => absurd star noStar)
      noStar noMark, ih]

/-- A glob is read in exactly one way. -/
theorem reads_iff {text : List Char} {list : List Token} : Reads text list ↔ tokens text = list :=
  ⟨Reads.tokens_eq, fun same => same ▸ reads_tokens text⟩

/-! ### What tokens stand for -/

/-- A piece of a path between slashes that is not empty. -/
def IsName (text : List Char) : Prop := text ≠ [] ∧ '/' ∉ text

/-- Names, each with a slash behind it. -/
def slashed (names : List (List Char)) : List Char := names.flatMap (· ++ ['/'])

/-- The texts that a token stands for. -/
def Token.StandsFor : Token → List Char → Prop
  | .directories, text => ∃ names, (∀ name ∈ names, IsName name) ∧ text = slashed names
  | .anything, _ => True
  | .withinName, text => '/' ∉ text
  | .one, text => ∃ c, c ≠ '/' ∧ text = [c]
  | .char c, text => text = [c]

theorem mem_restsWhile_iff {p : Char → Bool} {text rest : List Char} :
    rest ∈ restsWhile p text ↔ ∃ piece, (∀ c ∈ piece, p c = true) ∧ text = piece ++ rest := by
  induction text with
  | nil => simp [restsWhile]
  | cons c text ih =>
    rw [restsWhile, List.mem_cons]
    constructor
    · rintro (rfl | later)
      · exact ⟨[], by simp, rfl⟩
      · split at later
        · next taken =>
          obtain ⟨piece, all, rfl⟩ := ih.mp later
          exact ⟨c :: piece, List.forall_mem_cons.mpr ⟨taken, all⟩, rfl⟩
        · cases later
    · rintro ⟨piece, all, whole⟩
      cases piece with
      | nil => exact Or.inl whole.symm
      | cons d piece =>
        obtain ⟨rfl, rfl⟩ := List.cons.inj whole
        obtain ⟨taken, all⟩ := List.forall_mem_cons.mp all
        rw [if_pos taken]
        exact Or.inr (ih.mpr ⟨piece, all, rfl⟩)

/-- What is left after at least one directory.  A name that has begun may end at once, and one that
has not may not. -/
theorem mem_directoryRests_iff {inName : Bool} {text rest : List Char} :
    rest ∈ directoryRests inName text ↔ ∃ name names, '/' ∉ name ∧ (inName = false → name ≠ []) ∧
      (∀ other ∈ names, IsName other) ∧ text = name ++ '/' :: (slashed names ++ rest) := by
  induction text generalizing inName with
  | nil => simp [directoryRests]
  | cons c text ih =>
    rw [directoryRests]
    by_cases slash : c = '/'
    · subst slash
      rw [if_pos rfl]
      cases inName with
      | false =>
        -- The name would be empty.
        rw [if_neg Bool.false_ne_true]
        refine iff_of_false List.not_mem_nil ?_
        rintro ⟨name, names, free, some, -, whole⟩
        cases name with
        | nil => exact some rfl rfl
        | cons d name =>
          obtain ⟨rfl, -⟩ := List.cons.inj whole
          exact free List.mem_cons_self
      | true =>
        rw [if_pos rfl, List.mem_cons, ih]
        constructor
        · rintro (rfl | ⟨name, names, free, some, all, rfl⟩)
          · exact ⟨[], [], List.not_mem_nil, nofun, nofun, rfl⟩
          · refine ⟨[], name :: names, List.not_mem_nil, nofun, ?_, ?_⟩
            · exact List.forall_mem_cons.mpr ⟨⟨some rfl, free⟩, all⟩
            · simp [slashed]
        · rintro ⟨name, names, free, -, all, whole⟩
          cases name with
          | cons d name =>
            obtain ⟨rfl, -⟩ := List.cons.inj whole
            exact absurd List.mem_cons_self free
          | nil =>
            obtain ⟨-, rfl⟩ := List.cons.inj whole
            cases names with
            | nil => exact Or.inl rfl
            | cons name names =>
              obtain ⟨⟨some, free⟩, all⟩ := List.forall_mem_cons.mp all
              exact Or.inr ⟨name, names, free, fun _ => some, all, by simp [slashed]⟩
    · rw [if_neg slash, ih]
      constructor
      · rintro ⟨name, names, free, -, all, rfl⟩
        refine ⟨c :: name, names, ?_, fun _ => List.cons_ne_nil _ _, all, rfl⟩
        rw [List.mem_cons, not_or]
        exact ⟨Ne.symm slash, free⟩
      · rintro ⟨name, names, free, some, all, whole⟩
        cases name with
        | nil =>
          obtain ⟨rfl, -⟩ := List.cons.inj whole
          exact absurd rfl slash
        | cons d name =>
          obtain ⟨rfl, rfl⟩ := List.cons.inj whole
          rw [List.mem_cons, not_or] at free
          exact ⟨name, names, free.2, nofun, all, rfl⟩

/-- What may be left of a text after a token is what is left after the texts that it stands for. -/
theorem Token.mem_rests_iff {token : Token} {text rest : List Char} (oneLine : '\n' ∉ text) :
    rest ∈ token.rests text ↔ ∃ piece, token.StandsFor piece ∧ text = piece ++ rest := by
  cases token with
  | directories =>
    rw [rests, List.mem_cons, mem_directoryRests_iff]
    constructor
    · rintro (rfl | ⟨name, names, free, some, all, rfl⟩)
      · exact ⟨[], ⟨[], nofun, rfl⟩, rfl⟩
      · refine ⟨slashed (name :: names), ⟨name :: names, ?_, rfl⟩, by simp [slashed]⟩
        exact List.forall_mem_cons.mpr ⟨⟨some rfl, free⟩, all⟩
    · rintro ⟨_, ⟨names, all, rfl⟩, rfl⟩
      cases names with
      | nil => exact Or.inl rfl
      | cons name names =>
        obtain ⟨⟨some, free⟩, all⟩ := List.forall_mem_cons.mp all
        exact Or.inr ⟨name, names, free, fun _ => some, all, by simp [slashed]⟩
  | anything =>
    rw [rests, mem_restsWhile_iff]
    constructor
    · rintro ⟨piece, -, whole⟩
      exact ⟨piece, trivial, whole⟩
    · rintro ⟨piece, -, rfl⟩
      refine ⟨piece, fun c mem => decide_eq_true ?_, rfl⟩
      rintro rfl
      exact oneLine (List.mem_append_left _ mem)
  | withinName =>
    rw [rests, mem_restsWhile_iff]
    refine exists_congr fun piece => and_congr_left fun _ => ?_
    simp only [decide_eq_true_eq, StandsFor]
    exact ⟨fun all slash => all _ slash rfl, fun free c mem same => free (same ▸ mem)⟩
  | one =>
    cases text with
    | nil => simp [rests, StandsFor]
    | cons d text =>
      by_cases slash : d = '/'
      · simp [rests, StandsFor, slash]
      · simp [rests, StandsFor, slash, eq_comm]
  | char c =>
    cases text with
    | nil => simp [rests, StandsFor]
    | cons d text =>
      by_cases same : d = c
      · simp [rests, StandsFor, same, eq_comm]
      · simp [rests, StandsFor, same]

/-- What may be left after all tokens is what is left after pieces that they stand for. -/
theorem mem_restsAfter_iff {list : List Token} {texts : List (List Char)} {rest : List Char}
    (oneLine : ∀ text ∈ texts, '\n' ∉ text) :
    rest ∈ restsAfter list texts ↔ ∃ text ∈ texts, ∃ pieces,
      List.Forall₂ Token.StandsFor list pieces ∧ text = pieces.flatten ++ rest := by
  induction list generalizing texts with
  | nil =>
    simp [restsAfter]
  | cons token list ih =>
    -- One step replaces the texts by what may be left of them after the first token.
    have step : ∀ left, left ∈ (texts.flatMap token.rests).eraseDups ↔
        ∃ text ∈ texts, ∃ piece, token.StandsFor piece ∧ text = piece ++ left := by
      intro left
      rw [List.mem_eraseDups, List.mem_flatMap]
      refine exists_congr fun text => and_congr_right fun mem => ?_
      exact Token.mem_rests_iff (oneLine text mem)
    have shorter : ∀ left ∈ (texts.flatMap token.rests).eraseDups, '\n' ∉ left := by
      intro left mem newline
      obtain ⟨text, known, piece, -, rfl⟩ := (step left).mp mem
      exact oneLine _ known (List.mem_append_right _ newline)
    show rest ∈ restsAfter list (texts.flatMap token.rests).eraseDups ↔ _
    rw [ih shorter]
    constructor
    · rintro ⟨left, mem, pieces, stand, rfl⟩
      obtain ⟨text, known, piece, first, rfl⟩ := (step _).mp mem
      exact ⟨_, known, piece :: pieces, .cons first stand, by simp⟩
    · rintro ⟨text, known, all, stand, rfl⟩
      cases stand with
      | @cons _ piece _ pieces first stand =>
        refine ⟨pieces.flatten ++ rest, (step _).mpr ?_, pieces, stand, rfl⟩
        exact ⟨_, known, piece, first, by simp⟩

/-- A list of tokens admits the texts that can be cut into pieces that they stand for. -/
theorem admits_tokens_iff {list : List Token} {path : List Char} (oneLine : '\n' ∉ path) :
    (Shape.tokens list).admits path = true ↔
      ∃ pieces, List.Forall₂ Token.StandsFor list pieces ∧ path = pieces.flatten := by
  have empty : (Shape.tokens list).admits path = true ↔ [] ∈ restsAfter list [path] := by
    rw [Shape.admits, List.any_eq_true]
    simp only [List.isEmpty_iff, exists_eq_right]
  rw [empty, mem_restsAfter_iff (by simpa using oneLine)]
  simp only [List.mem_singleton, exists_eq_left, List.append_nil]

end QualityGate.Glob
